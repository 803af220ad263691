import RuleDraft.Proofs.Intake.Settled
import RuleDraft.Text.Codec

/-!
# Texts that a codec writes

A codec writes exactly the texts in which nothing stops it.  One that has all characters, as
UTF-8 has, writes every text without surrogates.
-/

namespace RuleDraft
namespace Codec

variable {k : Codec} {t : Text}

theorem gapFrom?_eq_none_iff (position : Nat) :
    k.gapFrom? position t = none ↔ ∀ c ∈ t, k.stopsAt c = false := by
  induction t generalizing position with
  | nil => exact iff_of_true rfl (List.forall_mem_nil _)
  | cons c rest ih =>
      rw [gapFrom?, List.forall_mem_cons]
      by_cases hc : k.stopsAt c = true
      · rw [if_pos hc, hc]
        exact iff_of_false nofun fun h => Bool.noConfusion h.left
      · rw [if_neg hc, ih]
        exact ⟨fun h => ⟨Bool.eq_false_iff.mpr hc, h⟩, And.right⟩

theorem gap?_eq_none_iff : k.gap? t = none ↔ ∀ c ∈ t, k.stopsAt c = false :=
  gapFrom?_eq_none_iff 0

theorem stopsAt_of_lacks {c : CodePoint} (h : k.lacks c = false) : k.stopsAt c = false := by
  rw [stopsAt, h, Bool.false_and]

/-- The codec has all characters; it may lack surrogates. -/
def HasCharacters (k : Codec) : Prop := ∀ c : CodePoint, c.isSurrogate = false → k.lacks c = false

theorem HasCharacters.gap?_eq_none (hk : k.HasCharacters) (ht : t.Encodable) : k.gap? t = none :=
  gap?_eq_none_iff.mpr fun c hc => stopsAt_of_lacks (hk c (ht c hc))

theorem hasCharacters_utf8 : utf8.HasCharacters := fun _ h => h

end Codec
end RuleDraft
