import DriveBridge.Numeral.Integer

namespace DriveBridge

namespace Text

variable {p : CodePoint → Bool} {front t back : Text}

theorem dropWhile_append_of_none (ht : ∀ c ∈ t, ¬ p c) (hne : t ≠ []) (back : Text) :
    (t ++ back).dropWhile p = t ++ back := by
  cases t with
  | nil => exact absurd rfl hne
  | cons c t => exact List.dropWhile_cons_of_neg (ht c List.mem_cons_self)

theorem trimWhile_append (hfront : ∀ c ∈ front, p c) (ht : ∀ c ∈ t, ¬ p c) (hne : t ≠ [])
    (hback : ∀ c ∈ back, p c) : trimWhile p (front ++ t ++ back) = t := by
  have hback' : ∀ c ∈ back.reverse, p c := fun c hc => hback c (List.mem_reverse.mp hc)
  have ht' : ∀ c ∈ t.reverse, ¬ p c := fun c hc => ht c (List.mem_reverse.mp hc)
  have hkept := dropWhile_append_of_none ht' (by simpa using hne) []
  rw [List.append_nil] at hkept
  rw [trimWhile, List.append_assoc, List.dropWhile_append_of_pos hfront,
    dropWhile_append_of_none ht hne, dropBackWhile, List.reverse_append,
    List.dropWhile_append_of_pos hback', hkept, List.reverse_reverse]

theorem trimWhile_eq_self (ht : ∀ c ∈ t, ¬ p c) (hne : t ≠ []) : trimWhile p t = t := by
  have h : trimWhile p ([] ++ t ++ []) = t :=
    trimWhile_append (List.forall_mem_nil _) ht hne (List.forall_mem_nil _)
  rwa [List.nil_append, List.append_nil] at h

theorem exists_margins (p : CodePoint → Bool) (t : Text) : ∃ front back,
    t = front ++ trimWhile p t ++ back ∧ (∀ c ∈ front, p c) ∧ ∀ c ∈ back, p c := by
  refine ⟨t.takeWhile p, ((t.dropWhile p).reverse.takeWhile p).reverse, ?_, ?_, ?_⟩
  · rw [trimWhile, dropBackWhile, List.append_assoc, ← List.reverse_append,
      List.takeWhile_append_dropWhile, List.reverse_reverse, List.takeWhile_append_dropWhile]
  · exact List.all_eq_true.mp List.all_takeWhile
  · intro c hc
    exact List.all_eq_true.mp List.all_takeWhile c (List.mem_reverse.mp hc)

theorem exists_mem_split {c : CodePoint} (hc : c ∈ t) (hp : ¬ p c) :
    ∃ piece ∈ split p t, c ∈ piece := by
  induction t with
  | nil => cases hc
  | cons d t ih =>
    rw [split_cons]
    obtain ⟨first, others, hsplit⟩ := List.exists_cons_of_ne_nil (split_ne_nil p t)
    rcases List.mem_cons.mp hc with rfl | hc
    · rw [if_neg hp, hsplit]
      exact ⟨c :: first, List.mem_cons_self, List.mem_cons_self⟩
    · obtain ⟨piece, hpiece, hmem⟩ := ih hc
      split
      · exact ⟨piece, List.mem_cons_of_mem _ hpiece, hmem⟩
      · rw [hsplit] at hpiece ⊢
        rcases List.mem_cons.mp hpiece with rfl | hpiece
        · exact ⟨d :: piece, List.mem_cons_self, List.mem_cons_of_mem _ hmem⟩
        · exact ⟨piece, List.mem_cons_of_mem _ hpiece, hmem⟩

end Text

namespace Integer

open CodePoint

variable {t : Text} {n : Int}

theorem isSome_of_mapM {α β : Type} {f : α → Option β} {xs : List α} (h : (xs.mapM f).isSome) :
    ∀ x ∈ xs, (f x).isSome := by
  induction xs with
  | nil =>
    intro x hx
    cases hx
  | cons x xs ih =>
    rw [List.mapM_cons] at h
    obtain ⟨ys, h⟩ := Option.isSome_iff_exists.mp h
    obtain ⟨y, hy, h⟩ := Option.bind_eq_some_iff.mp h
    obtain ⟨rest, hrest, _⟩ := Option.bind_eq_some_iff.mp h
    rw [List.forall_mem_cons]
    exact ⟨by rw [hy]; rfl, ih (by rw [hrest]; rfl)⟩

theorem digit_not_blank : ∀ start ∈ zeros, ∀ i < 10, ∀ h : start + i < 0x110000,
    ¬ isBlank ⟨start + i, h⟩ := by
  decide +kernel

theorem not_isBlank_of_digit {c : CodePoint} (h : (digit? c).isSome) : ¬ c.isBlank := by
  rw [digit?, Option.isSome_map, List.find?_isSome] at h
  obtain ⟨start, hstart, hin⟩ := h
  simp only [Bool.and_eq_true, decide_eq_true_eq] at hin
  have hsum : start + (c.val - start) = c.val := by omega
  have hdigit := digit_not_blank start hstart (c.val - start) (by omega)
  simp only [hsum] at hdigit
  exact hdigit c.isLt

theorem not_isBlank_of_magnitude (h : magnitude? t ≠ none) : ∀ c ∈ t, ¬ c.isBlank := by
  intro c hc
  rw [magnitude?, ne_eq, Option.map_eq_none_iff, ← ne_eq, Option.ne_none_iff_exists'] at h
  obtain ⟨ds, h⟩ := h
  have h := (Option.filter_eq_some_iff.mp h).1
  rw [digitRun?] at h
  split at h
  · cases h
  by_cases hscore : c = 0x5F
  · rw [hscore]
    decide
  · obtain ⟨piece, hpiece, hmem⟩ :=
      Text.exists_mem_split hc (p := (· = 0x5F)) (by simpa using hscore)
    apply not_isBlank_of_digit
    exact isSome_of_mapM (by rw [h]; rfl) c (List.mem_flatten_of_mem hpiece hmem)

theorem not_isBlank_of_signed (h : signed? magnitude? t = some n) :
    t ≠ [] ∧ ∀ c ∈ t, ¬ c.isBlank := by
  cases t with
  | nil => cases h
  | cons c t =>
    refine ⟨List.cons_ne_nil c t, ?_⟩
    rw [signed?] at h
    split at h
    · rename_i hminus
      rw [List.forall_mem_cons, hminus]
      refine ⟨by decide, not_isBlank_of_magnitude fun hnone => ?_⟩
      rw [hnone] at h
      cases h
    split at h
    · rename_i hplus
      rw [List.forall_mem_cons, hplus]
      refine ⟨by decide, not_isBlank_of_magnitude fun hnone => ?_⟩
      rw [hnone] at h
      cases h
    · refine not_isBlank_of_magnitude fun hnone => ?_
      rw [hnone] at h
      cases h

theorem isBlank_of_isMargin {c : CodePoint} (h : isMargin c) : c.isBlank := by
  rw [isMargin, Bool.and_eq_true] at h
  exact h.1

theorem ofText?_trim (h : ofText? t = some n) : ofText? (Text.trim t) = some n := by
  obtain ⟨hne, hblank⟩ := not_isBlank_of_signed h
  obtain ⟨front, back, ht, hfront, hback⟩ := Text.exists_margins isMargin t
  have htrim : Text.trim t = Text.trimWhile isMargin t := by
    rw [Text.trim]
    conv => lhs; rw [ht]
    exact Text.trimWhile_append (fun c hc => isBlank_of_isMargin (hfront c hc)) hblank hne
      fun c hc => isBlank_of_isMargin (hback c hc)
  have hagain :=
    Text.trimWhile_eq_self (fun c hc hmargin => hblank c hc (isBlank_of_isMargin hmargin)) hne
  rw [htrim, ofText?, hagain]
  exact h

end Integer

end DriveBridge
