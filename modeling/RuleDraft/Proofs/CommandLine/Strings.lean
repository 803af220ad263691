import RuleDraft.Proofs.CommandLine.Breaks
import RuleDraft.Proofs.Json.Grammar
import RuleDraft.Proofs.Outcome

/-!
# Strings with unified line breaks

What is read from a text before its line breaks are unified is compared, reader by reader, with
what is read afterwards: unless the first reading finds the text malformed, the second finds the
same, and leaves the same behind with its breaks unified.  A string cannot hold a line break.
-/

namespace RuleDraft
namespace Json

open Text CommandLine.Folder

variable {t rest : Text}

/--
The second reading finds what the first finds, and leaves the same with its breaks unified, of
fewer code points than a bound; nothing is said about a text that is malformed.
-/
inductive Carries {α : Type} (bound : Nat) :
    Except ReadError (α × Text) → Except ReadError (α × Text) → Prop
  | malformed (fault : Fault) (place : Nat) (r : Except ReadError (α × Text)) :
      Carries bound (.error (.malformed fault place)) r
  | tooLong (digits : Nat) :
      Carries bound (.error (.integerTooLong digits)) (.error (.integerTooLong digits))
  | tooDeep (container : Container) :
      Carries bound (.error (.tooDeep container)) (.error (.tooDeep container))
  | found (x : α) (rest : Text) (hrest : (unifyBreaks rest).length < bound) :
      Carries bound (.ok (x, rest)) (.ok (x, unifyBreaks rest))

namespace Carries

variable {α β : Type} {m n : Nat} {r r' : Except ReadError (α × Text)}

theorem mono (h : Carries m r r') (hmn : m ≤ n) : Carries n r r' := by
  cases h with
  | malformed fault place r => exact .malformed fault place _
  | tooLong digits => exact .tooLong digits
  | tooDeep container => exact .tooDeep container
  | found x rest hrest => exact .found x rest (Nat.lt_of_lt_of_le hrest hmn)

theorem map {f g : α × Text → β × Text} (h : Carries m r r') (hmn : m ≤ n)
    (hfg : ∀ x rest, ∃ y,
      f (x, rest) = (y, rest) ∧ g (x, unifyBreaks rest) = (y, unifyBreaks rest)) :
    Carries n (r.map f) (r'.map g) := by
  cases h with
  | malformed fault place r => exact .malformed fault place _
  | tooLong digits => exact .tooLong digits
  | tooDeep container => exact .tooDeep container
  | found x rest hrest =>
      rcases hfg x rest with ⟨y, hf, hg⟩
      change Carries n (.ok (f (x, rest))) (.ok (g (x, unifyBreaks rest)))
      rw [hf, hg]
      exact .found y rest (Nat.lt_of_lt_of_le hrest hmn)

theorem bind {f g : α × Text → Except ReadError (β × Text)} (h : Carries m r r')
    (hfg : ∀ x rest, (unifyBreaks rest).length < m →
      Carries n (f (x, rest)) (g (x, unifyBreaks rest))) :
    Carries n (r >>= f) (r' >>= g) := by
  cases h with
  | malformed fault place r => exact .malformed fault place _
  | tooLong digits => exact .tooLong digits
  | tooDeep container => exact .tooDeep container
  | found x rest hrest => exact hfg x rest hrest

end Carries

/-!
# Strings
-/

theorem hexValue?_ne_return {c : CodePoint} {n : Nat} (h : c.hexValue? = some n) : c.val ≠ 13 := by
  intro hc
  have hreturn : c = CodePoint.ofChar '\r' := Fin.ext hc
  rw [hreturn] at h
  cases h

theorem shortEscaped?_ne_return {c p : CodePoint} (h : shortEscaped? c = some p) : c.val ≠ 13 := by
  intro hc
  have hreturn : c = CodePoint.ofChar '\r' := Fin.ext hc
  rw [hreturn] at h
  cases h

theorem unifyBreaks_ne_nil (h : t ≠ []) : unifyBreaks t ≠ [] := by
  cases t with
  | nil => exact absurd rfl h
  | cons c rest =>
      rcases unifyBreaks_head c rest with ⟨d, more, heq, _⟩
      rw [heq]
      exact List.cons_ne_nil d more

section Units

variable {a b c d : CodePoint} {n : Nat}

/-- Hexadecimal digits are no line breaks. -/
theorem unifyBreaks_hex4 (h : hex4? a b c d = some n) (rest : Text) :
    unifyBreaks (a :: b :: c :: d :: rest) = a :: b :: c :: d :: unifyBreaks rest := by
  simp only [hex4?, Option.bind_eq_bind, Option.bind_eq_some_iff] at h
  rcases h with ⟨x, ha, y, hb, z, hc, w, hd, _⟩
  rw [unifyBreaks_cons (hexValue?_ne_return ha), unifyBreaks_cons (hexValue?_ne_return hb),
    unifyBreaks_cons (hexValue?_ne_return hc), unifyBreaks_cons (hexValue?_ne_return hd)]

theorem startsUnit_of_joined {p : CodePoint} (h : pairing n t = .joined p) :
    ∃ a b c d y more low, hex4? a b c d = some low ∧
      t = CodePoint.ofChar '\\' :: CodePoint.ofChar 'u' :: a :: b :: c :: d :: y :: more := by
  by_cases hunit : StartsUnit t
  · rcases hunit with ⟨a, b, c, d, y, more, rfl⟩
    cases hhex : hex4? a b c d with
    | none =>
        simp only [pairing, and_self, if_true, hhex] at h
        cases h
    | some low => exact ⟨a, b, c, d, y, more, low, hhex, rfl⟩
  · rw [pairing_apart hunit] at h
    cases h

theorem startsUnit_of_unifyBreaks (h : StartsUnit (unifyBreaks t)) : StartsUnit t := by
  rcases h with ⟨a, b, c, d, y, more, heq⟩
  rcases eq_cons_of_unifyBreaks (by decide) (by decide) heq with ⟨escape, rfl, hescape⟩
  rcases eq_cons_of_unifyBreaks (by decide) (by decide) hescape with ⟨rest, rfl, hrest⟩
  have hlength := length_unifyBreaks_le rest
  rw [hrest] at hlength
  match rest, hlength with
  | a :: b :: c :: d :: y :: more, _ => exact ⟨a, b, c, d, y, more, rfl⟩

theorem pairing_unifyBreaks (h : pairing n t ≠ .broken) :
    pairing n (unifyBreaks t) = pairing n t := by
  by_cases hunit : StartsUnit t
  · rcases hunit with ⟨a, b, c, d, y, more, rfl⟩
    cases hhex : hex4? a b c d with
    | none =>
        refine absurd ?_ h
        simp only [pairing, and_self, if_true, hhex]
    | some low =>
        rcases unifyBreaks_head y more with ⟨y', more', heq, _⟩
        rw [unifyBreaks_cons (by decide), unifyBreaks_cons (by decide), unifyBreaks_hex4 hhex, heq]
        simp only [pairing, and_self, if_true, hhex]
  · have hunified : ¬ StartsUnit (unifyBreaks t) := fun h => hunit (startsUnit_of_unifyBreaks h)
    rw [pairing_apart hunit, pairing_apart hunified]

end Units

/-!
# Reading strings
-/

theorem carries_readText (opening place : Nat) (t : Text) :
    Carries (unifyBreaks t).length (readText opening t) (readText place (unifyBreaks t)) := by
  have hfront (p : CodePoint) (x rest : Text) : ∃ y, inFront p (x, rest) = (y, rest) ∧
      inFront p (x, unifyBreaks rest) = (y, unifyBreaks rest) := ⟨_, rfl, rfl⟩
  fun_induction readText opening t
  case case2 rest =>
    rw [unifyBreaks_cons (by decide), readText_quote]
    exact .found [] rest (Nat.lt_succ_self _)
  case case8 a b c d y n hhex hhigh p e f g h i more _ _ hpair _ ih =>
    rcases startsUnit_of_joined hpair with ⟨a', b', c', d', y', more', low, hlow, heq⟩
    have hunified := pairing_unifyBreaks (by rw [hpair]; nofun)
    cases heq
    rw [hpair, unifyBreaks_cons (by decide), unifyBreaks_cons (by decide), unifyBreaks_hex4 hlow]
      at hunified
    rw [unifyBreaks_cons (by decide), unifyBreaks_cons (by decide), unifyBreaks_hex4 hhex,
      unifyBreaks_cons (by decide), unifyBreaks_cons (by decide), unifyBreaks_hex4 hlow, hpair]
    rw [readText_pair hhex hhigh hunified]
    exact ih.map (by simp only [List.length_cons]; omega) (hfront p)
  case case9 a b c d y more n hhex _ hhigh hpair _ _ =>
    rw [hpair]
    exact .malformed _ _ _
  case case10 a b c d y more n hhex _ hhigh hbroken hjoined _ ih =>
    have hapart : pairing n (y :: more) = .apart := by
      cases hpair : pairing n (y :: more) with
      | apart => rfl
      | broken => exact absurd hpair hbroken
      | joined p =>
          rcases startsUnit_of_joined hpair with ⟨a', b', c', d', y', more', low, _, heq⟩
          exact absurd (List.cons.inj heq).right (hjoined p _ _ _ _ _ _ hpair)
    have hunified := pairing_unifyBreaks (by rw [hapart]; nofun)
    rw [hapart] at hunified
    rw [hapart, unifyBreaks_cons (by decide), unifyBreaks_cons (by decide), unifyBreaks_hex4 hhex,
      readText_unit hhex (fun _ _ => hunified) (unifyBreaks_ne_nil (List.cons_ne_nil y more))]
    exact ih.map (by simp only [List.length_cons]; omega) (hfront (CodePoint.ofNat n))
  case case11 a b c d y more n hhex _ hlow _ ih =>
    rw [unifyBreaks_cons (by decide), unifyBreaks_cons (by decide), unifyBreaks_hex4 hhex,
      readText_unit hhex (fun hge hle => absurd ⟨hge, hle⟩ hlow)
        (unifyBreaks_ne_nil (List.cons_ne_nil y more))]
    exact ih.map (by simp only [List.length_cons]; omega) (hfront (CodePoint.ofNat n))
  case case14 e a more he p hp _ ih =>
    rw [unifyBreaks_cons (by decide), unifyBreaks_cons (shortEscaped?_ne_return hp),
      readText_escaped he hp (unifyBreaks_ne_nil (List.cons_ne_nil a more))]
    exact ih.map (by simp only [List.length_cons]; omega) (hfront p)
  case case16 c rest hquote hbackslash hsize ih =>
    rw [unifyBreaks_cons (by omega), readText_ordinary hquote hbackslash hsize]
    exact ih.map (Nat.le_succ _) (hfront c)
  -- What is left are the cases in which the reader finds a fault.
  all_goals exact .malformed _ _ _

end Json
end RuleDraft
