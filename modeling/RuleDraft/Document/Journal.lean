import RuleDraft.Document
import RuleDraft.Log.Entry

/-!
# The journal of generation

Generating a document leaves entries in the log: a warning about conditions
without a key, and what was generated or refused. A document that the strict
gate stops leaves none.
-/

namespace RuleDraft
namespace Journal

def logger : String := "dsl_builder.generator.assembler"

/-- A warning, when conditions lack a key. -/
def incomplete (n : Nat) (message : String) (extra : List (String × Value)) : List Log.Entry :=
  if n = 0 then []
  else [.of .warning logger message (extra ++ [("incomplete_conditions", .nat n)])]

def ofVendor (strict : Bool) (f : VendorForm) : List Log.Entry :=
  match f.generate strict with
  | .error _ => []
  | .ok d =>
      incomplete (Gate.countIncomplete (f.preconditions ++ f.responseMappings))
        "Vendor document has conditions without a key" [("vendor", f.vendor)] ++
      [.of .info logger "Generated vendor DSL"
        [("vendor", d.vendor), ("method", .text d.method.name),
         ("preconditions", .nat d.preconditions.length),
         ("response_mappings", .nat d.responseMappings.length)]]

def ofConfig (strict : Bool) (f : ConfigForm) : List Log.Entry :=
  if f.validations.isEmpty then
    [.of .info logger "Config generation refused: no validation groups" []]
  else
    match f.generate strict with
    | .error _ => []
    | .ok d =>
        incomplete (Gate.countIncomplete f.validations)
          "Config document has conditions without a key" [] ++
        [.of .info logger "Generated config DSL"
          [("validations", .nat d.validations.length),
           ("additional_validations", .bool d.additionalValidations),
           ("read_write_keys", .nat d.readWrite.length)]]

end Journal
end RuleDraft
