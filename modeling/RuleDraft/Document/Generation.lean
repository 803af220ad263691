import RuleDraft.Document.Journal

/-!
# Generations

One generation of a document: of which kind, what came of it, and what it left
in the log.
-/

namespace RuleDraft

/-- A generation and what came of it. -/
structure Generation where
  kind : DocumentKind
  result : Except Failure Value
  journal : List Log.Entry

namespace Generation

def ofVendor (strict : Bool) (f : VendorForm) : Generation :=
  ⟨.vendor, (f.generate strict).map VendorDocument.toValue, Journal.ofVendor strict f⟩

def ofConfig (strict : Bool) (f : ConfigForm) : Generation :=
  ⟨.config, (f.generate strict).map ConfigDocument.toValue, Journal.ofConfig strict f⟩

/-- Generate the document of the form that a new one starts from. -/
def ofStarter (kind : DocumentKind) (strict : Bool) (ids : IdSupply) : Generation :=
  match kind with
  | .vendor => ofVendor strict (.starter ids)
  | .config => ofConfig strict (.starter ids)

def ofData (kind : DocumentKind) (strict : Bool) (form : Value) (ids : IdSupply) : Generation :=
  match kind with
  | .vendor =>
      match readForm VendorForm.title VendorForm.intake form ids with
      | .ok f => ofVendor strict f
      | .error e => ⟨.vendor, .error e, []⟩
  | .config =>
      match readForm ConfigForm.title ConfigForm.intake form ids with
      | .ok f => ofConfig strict f
      | .error e => ⟨.config, .error e, []⟩

end Generation

end RuleDraft
