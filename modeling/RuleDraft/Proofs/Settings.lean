import RuleDraft.Proofs.Intake.Accepted
import RuleDraft.Settings

/-!
# Settings for production

Settings that are read have passed their check as a whole.  In production they have a
token, and none of the listed origins names the machine that the service runs on.
-/

namespace RuleDraft

/-!
# Letter case of names
-/

theorem CodePoint.lower_lower (c : CodePoint) : c.lower.lower = c.lower := by
  by_cases hcapital : 65 ≤ c.val ∧ c.val ≤ 90
  · have hlower : c.lower = ofNat (c.val + 32) := if_pos hcapital
    have hval : (ofNat (c.val + 32)).val = c.val + 32 := by
      rw [ofNat, dif_pos (by omega)]
    rw [hlower, lower, if_neg (by omega), if_neg (by omega)]
  · by_cases hkelvin : c.val = 0x212A
    · have hlower : c.lower = 'k' := by rw [lower, if_neg hcapital, if_pos hkelvin]
      rw [hlower]
      decide
    · have hlower : c.lower = c := by rw [lower, if_neg hcapital, if_neg hkelvin]
      rw [hlower, hlower]

theorem Text.lower_lower (t : Text) : t.lower.lower = t.lower := by
  rw [Text.lower, Text.lower, List.map_map]
  exact List.map_congr_left fun c _ => c.lower_lower

/-!
# Settings as a whole
-/

namespace Settings

def localNames : List String := ["localhost", "127.0.0.1"]

def IsLocal (origin : Text) : Prop := ∃ name ∈ localNames, Text.ofString name <:+: origin

theorem any_isPrefixOf_drop_iff {part t : Text} :
    ((List.range (t.length + 1)).any fun n => part.isPrefixOf (t.drop n)) = true ↔
      part <:+: t := by
  rw [List.any_eq_true]
  constructor
  · rintro ⟨n, _, hprefix⟩
    exact (List.isPrefixOf_iff_prefix.mp hprefix).isInfix.trans (List.drop_suffix n t).isInfix
  · rintro ⟨front, rest, rfl⟩
    refine ⟨front.length, ?_, ?_⟩
    · rw [List.mem_range, List.append_assoc, List.length_append]
      omega
    · rw [List.append_assoc, List.drop_left, List.isPrefixOf_iff_prefix]
      exact List.prefix_append part rest

theorem isLocalOrigin_iff {origin : Text} : isLocalOrigin origin = true ↔ IsLocal origin := by
  rw [isLocalOrigin, Bool.or_eq_true, any_isPrefixOf_drop_iff, any_isPrefixOf_drop_iff]
  simp [IsLocal, localNames]

theorem productionCause_eq_none {s : Settings} (hs : s.deployment = .prod)
    (h : productionCause s = none) :
    (∃ token, s.metricsToken = some token ∧ token ≠ []) ∧
      ∀ origin ∈ s.originList, ¬ IsLocal origin := by
  rw [productionCause, if_neg fun hne => hne hs] at h
  by_cases htoken : s.metricsToken.all List.isEmpty = true
  · rw [if_pos htoken] at h
    cases h
  · rw [if_neg htoken, Option.map_eq_none_iff, List.find?_eq_none] at h
    refine ⟨?_, fun origin horigin hlocal => h origin horigin (isLocalOrigin_iff.mpr hlocal)⟩
    cases hgiven : s.metricsToken with
    | none =>
        rw [hgiven] at htoken
        exact absurd rfl htoken
    | some token =>
        refine ⟨token, rfl, ?_⟩
        rintro rfl
        rw [hgiven] at htoken
        exact htoken rfl

theorem productionCause_of_read {environment options : List (Text × Value)} {s : Settings}
    (h : read environment options = .ok s) : productionCause s = none := by
  unfold read at h
  dsimp only at h
  split at h
  · cases h
  · split at h
    · rename_i hguarded
      cases h
      exact (Checked.guarded_eq_ok.mp hguarded).right
    · cases h

/-- Settings that are read for production have a token, and list no local origin. -/
theorem read_production {environment options : List (Text × Value)} {s : Settings}
    (h : read environment options = .ok s) (hs : s.deployment = .prod) :
    (∃ token, s.metricsToken = some token ∧ token ≠ []) ∧
      ∀ origin ∈ s.originList, ¬ IsLocal origin :=
  productionCause_eq_none hs (productionCause_of_read h)

end Settings
end RuleDraft
