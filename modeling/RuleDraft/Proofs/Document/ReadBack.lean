import RuleDraft.Proofs.Json.Documents

/-!
# Renderings read back

The text of a rendering that is shown and the text that is hashed are two layouts of
one value.  Reading either of them gives that value, with its keys in their order.
-/

namespace RuleDraft

theorem rendered_texts_read_back {v : Value} (hready : v.JsonReady)
    (hdepth : v.depth ≤ Json.maxDepth) (indent : Int) :
    Json.readDocument (Rendering.ofValue indent v).content = .ok v ∧
      Json.readDocument (Rendering.ofValue indent v).compact = .ok v :=
  ⟨Json.readDocument_render (Json.Style.pretty_spaced indent) hready hdepth,
    Json.readDocument_render Json.Style.compact_spaced hready hdepth⟩

/-- Quotes, control characters, a surrogate of its own, and containers in each other. -/
def intricate : Value :=
  .object
    [("\x22\\\n\x07", .list [.null, .bool true, .int (-12), .float .nan, .list [], .object []]),
     ([CodePoint.ofNat 0xD800], .text [CodePoint.ofNat 0xDC00, CodePoint.ofChar '/'])]

theorem intricate_ready : intricate.JsonReady := by
  have hint : (-12 : Int).natAbs < 10 ^ digitLimit :=
    calc (-12 : Int).natAbs < 10 ^ 2 := by decide
      _ ≤ 10 ^ digitLimit := Nat.pow_le_pow_right (by decide) (by decide)
  exact ⟨by decide, ⟨trivial, trivial, hint, trivial, trivial, ⟨by decide, trivial⟩, trivial⟩,
    trivial, trivial⟩

theorem rendered_texts_read_back_intricate :
    intricate.JsonReady ∧ intricate.depth ≤ Json.maxDepth ∧
      Json.readDocument (Rendering.ofValue (-1) intricate).content = .ok intricate ∧
        Json.readDocument (Rendering.ofValue (-1) intricate).compact = .ok intricate :=
  ⟨intricate_ready, by decide,
    rendered_texts_read_back intricate_ready (by decide) (-1)⟩

end RuleDraft
