import Mathlib.Data.List.TakeWhile
import DriveBridge.Text.Basic

namespace DriveBridge.Text

open CodePoint

variable {p q : CodePoint → Bool}

theorem takeBackWhile_eq_self_iff {t : Text} : takeBackWhile p t = t ↔ t.all p := by
  rw [takeBackWhile, List.reverse_eq_iff, List.takeWhile_eq_self_iff, List.all_eq_true]
  simp only [List.mem_reverse]

theorem takeBackWhile_append_cons {c : CodePoint} (s t : Text) (hc : p c = false) :
    takeBackWhile p (s ++ c :: t) = takeBackWhile p t := by
  rw [takeBackWhile, takeBackWhile, List.reverse_append, List.reverse_cons, List.append_assoc]
  congr 1
  induction t.reverse with
  | nil => simp [hc]
  | cons d t ih => rw [List.cons_append, List.takeWhile_cons, List.takeWhile_cons, ih]

theorem takeBackWhile_append {c : CodePoint} {last : Text} (s : Text)
    (hc : p c = false) (hl : last.all p) : takeBackWhile p (s ++ c :: last) = last := by
  rw [takeBackWhile_append_cons s last hc, takeBackWhile_eq_self_iff.mpr hl]

theorem takeBackWhile_takeBackWhile (h : ∀ c, p c → q c) (t : Text) :
    takeBackWhile p (takeBackWhile q t) = takeBackWhile p t := by
  have hpq : (fun c => decide (p c ∧ q c)) = p := by
    funext c
    simp only [and_iff_left_of_imp (h c), Bool.decide_eq_true]
  rw [takeBackWhile, takeBackWhile, List.reverse_reverse, List.takeWhile_takeWhile, hpq,
    takeBackWhile]

def lastPart (t : Text) : Text := takeBackWhile (!isSeparator ·) t

theorem any_isSeparator_lastPart (t : Text) : t.lastPart.any isSeparator = false := by
  rw [List.any_eq_false]
  intro c hc
  have := List.mem_takeWhile_imp (List.mem_reverse.mp hc)
  simpa using this

theorem split_eq_splitOnP (p : CodePoint → Bool) (t : Text) : split p t = t.splitOnP p := by
  induction t with
  | nil => rw [split_nil, List.splitOnP_nil]
  | cons c t ih => rw [split_cons, List.splitOnP_cons_eq_if_modifyHead, ih]

theorem split_append_cons {t : Text} {c : CodePoint} (rest : Text)
    (ht : ∀ d ∈ t, p d = false) (hc : p c) : split p (t ++ c :: rest) = t :: split p rest := by
  rw [split_eq_splitOnP, List.splitOnP_append_cons_of_forall_mem ht c hc, split_eq_splitOnP]

theorem split_of_all {t : Text} (h : t.all (!p ·)) : split p t = [t] := by
  rw [split_eq_splitOnP]
  apply List.splitOnP_eq_singleton
  simpa using h

theorem join_split (c : CodePoint) (t : Text) : join c (split (· = c) t) = t := by
  have hsplit : split (· = c) t = t.splitOn c := split_eq_splitOnP _ t
  rw [join, hsplit, List.intercalate_splitOn]

inductive IsCut (p : CodePoint → Bool) : Text → List Text → Prop
  | whole {t : Text} (ht : ∀ d ∈ t, p d = false) : IsCut p t [t]
  | cut {t rest : Text} {c : CodePoint} {pieces : List Text} (ht : ∀ d ∈ t, p d = false)
      (hc : p c) (h : IsCut p rest pieces) : IsCut p (t ++ c :: rest) (t :: pieces)

theorem isCut_split (p : CodePoint → Bool) (t : Text) : IsCut p t (split p t) := by
  induction t with
  | nil => exact .whole (List.forall_mem_nil _)
  | cons c t ih =>
    rw [split_cons]
    split
    · rename_i hc
      exact .cut (t := []) (List.forall_mem_nil _) hc ih
    · rename_i hc
      rw [Bool.not_eq_true] at hc
      generalize split p t = pieces at ih
      cases ih with
      | whole ht => exact .whole (List.forall_mem_cons.mpr ⟨hc, ht⟩)
      | cut ht hd h =>
        rw [← List.cons_append]
        exact .cut (List.forall_mem_cons.mpr ⟨hc, ht⟩) hd h

theorem isCut_iff {t : Text} {pieces : List Text} : IsCut p t pieces ↔ pieces = split p t := by
  constructor
  · intro h
    induction h with
    | whole ht => exact (split_of_all (by simpa using ht)).symm
    | cut ht hc _ ih => rw [split_append_cons _ ht hc, ih]
  · rintro rfl
    exact isCut_split p t

theorem IsCut.eq_false_of_mem {t piece : Text} {pieces : List Text} {c : CodePoint}
    (h : IsCut p t pieces) (hpiece : piece ∈ pieces) (hc : c ∈ piece) : p c = false := by
  induction h with
  | whole ht =>
    obtain rfl := List.mem_singleton.mp hpiece
    exact ht c hc
  | cut ht _ _ ih =>
    rcases List.mem_cons.mp hpiece with rfl | hpiece
    · exact ht c hc
    · exact ih hpiece

theorem IsCut.getLast?_eq {t : Text} {pieces : List Text} (h : IsCut p t pieces) :
    pieces.getLast? = some (takeBackWhile (!p ·) t) := by
  induction h with
  | whole ht =>
    rw [takeBackWhile_eq_self_iff.mpr (by simpa using ht)]
    rfl
  | cut _ hc _ ih =>
    rw [takeBackWhile_append_cons _ _ (by simpa using hc), ← ih, List.getLast?_cons_of_ne_nil]
    rintro rfl
    cases ih

end DriveBridge.Text
