import Mathlib.Data.List.Sections
import DriveBridge.Proofs.Text.LetterCase
import DriveBridge.Value.Basic

/-!
The spellings of a unit. A text is trimmed, lower-cased and evened out before a unit is looked up for
it, but nothing beyond ASCII comes to be a part of a name of a unit that way. So each unit has a few
spellings, and a text is one of them but for the white space around it and the case of its letters.
-/

namespace DriveBridge

namespace Text

variable {a b : CodePoint} {t w : Text}

def unreplaced (a b : CodePoint) (w : Text) : List Text :=
  List.sections (w.map fun c => if c = b then [a, b] else if c = a then [] else [c])

theorem mem_unreplaced_iff : t ∈ unreplaced a b w ↔ replace a b t = w := by
  have hone (c d : CodePoint) : c ∈ (if d = b then [a, b] else if d = a then [] else [d]) ↔
      (if c = a then b else c) = d := by
    grind
  rw [unreplaced, List.mem_sections, List.forall₂_map_right_iff, replace,
    ← List.forall₂_eq_eq_eq, List.forall₂_map_left_iff]
  simp only [hone]

end Text

namespace LengthUnit

variable {x : Text} {u : LengthUnit}

def forms : LengthUnit → List Text
  | utf8 => ["utf-8", "utf_8", "utf8", "bytes"]
  | utf16 => ["utf-16", "utf_16", "utf16", "utf-16-le", "utf_16_le", "utf-16_le", "utf_16-le"]

theorem mem_forms_iff {t : Text} :
    t ∈ u.forms ↔ spellings.lookup (Text.replace 0x5F 0x2D t) = some u := by
  constructor
  · have hfound : ∀ w ∈ u.forms, spellings.lookup (Text.replace 0x5F 0x2D w) = some u := by
      cases u <;> decide +kernel
    exact hfound t
  · -- Whatever leads to a name in the table is among the texts that the name is unreplaced to.
    intro h
    obtain ⟨_, _, hsplit, _⟩ := List.lookup_eq_some_iff.mp h
    have hmem : (Text.replace 0x5F 0x2D t, u) ∈ spellings := by
      rw [hsplit]
      exact List.mem_append_right _ List.mem_cons_self
    have hforms : ∀ e ∈ spellings, ∀ w ∈ Text.unreplaced 0x5F 0x2D e.1, w ∈ e.2.forms := by
      decide +kernel
    exact hforms _ hmem t (Text.mem_unreplaced_iff.mpr rfl)

theorem isSteady_of_mem_forms {w : Text} (hw : w ∈ u.forms) : ∀ c ∈ w, c.isSteady := by
  have hall : u.forms.all (·.all CodePoint.isSteady) := by
    cases u <;> decide +kernel
  intro c hc
  exact List.all_eq_true.mp (List.all_eq_true.mp hall w hw) c hc

theorem label_mem_forms (u : LengthUnit) : u.label ∈ u.forms := by
  cases u
  · exact List.mem_cons_self
  · exact List.mem_cons_self

theorem ofText?_eq_some_iff : ofText? x = some u ↔ ∃ w ∈ u.forms, (Text.trim x).IsLike w := by
  rw [ofText?, ← mem_forms_iff]
  exact Text.lower_mem_iff fun _ => isSteady_of_mem_forms

theorem ofText?_eq_none_iff :
    ofText? x = none ↔ ∀ u : LengthUnit, ∀ w ∈ u.forms, ¬ (Text.trim x).IsLike w := by
  constructor
  · intro h u w hw hlike
    rw [ofText?_eq_some_iff.mpr ⟨w, hw, hlike⟩] at h
    cases h
  · intro h
    rw [Option.eq_none_iff_forall_ne_some]
    intro u hu
    obtain ⟨w, hw, hlike⟩ := ofText?_eq_some_iff.mp hu
    exact h u w hw hlike

theorem ofText?_of_isLike (h : (Text.trim x).IsLike u.label) : ofText? x = some u :=
  ofText?_eq_some_iff.mpr ⟨u.label, u.label_mem_forms, h⟩

theorem ofText?_label (u : LengthUnit) : ofText? u.label = some u := by
  cases u <;> decide +kernel

end LengthUnit

namespace Value

variable {x : Text} {u : LengthUnit}

theorem toUnit_of_some (h : LengthUnit.ofText? x = some u) : (text x).toUnit = .ok u := by
  rw [toUnit, h]

theorem toUnit_of_none (h : LengthUnit.ofText? x = none) :
    (text x).toUnit = .error (.unknown x) := by
  rw [toUnit, h]

theorem toUnit_label (u : LengthUnit) : (text u.label).toUnit = .ok u :=
  toUnit_of_some u.ofText?_label

theorem countIn_of_toUnit {v : Value} (h : v.toUnit = .ok u) (t : Text) :
    v.countIn t = .ok (u.count t) := by
  rw [countIn, h]
  rfl

theorem countIn_label (u : LengthUnit) (t : Text) : (text u.label).countIn t = .ok (u.count t) :=
  countIn_of_toUnit (toUnit_label u) t

theorem toUnit_text_eq_ok_iff : (text x).toUnit = .ok u ↔ LengthUnit.ofText? x = some u := by
  cases h : LengthUnit.ofText? x with
  | none => simp [toUnit_of_none h]
  | some v => simp [toUnit_of_some h]

theorem toUnit_text_eq_error_iff :
    (text x).toUnit = .error (.unknown x) ↔ LengthUnit.ofText? x = none := by
  cases h : LengthUnit.ofText? x with
  | none => simp [toUnit_of_none h]
  | some v => simp [toUnit_of_some h]

theorem countIn_eq_error_iff {v : Value} {cause : UnitError} (t : Text) :
    v.countIn t = .error cause ↔ v.toUnit = .error cause := by
  rw [countIn]
  cases v.toUnit with
  | ok u => simp [Except.map]
  | error other => simp [Except.map]

/-- A text is taken for a unit exactly if it is one of its spellings between white space, up to the
case of ASCII letters, and a length is counted in all of those texts and no others. -/
theorem toUnit_text_iff_isLike (x t : Text) :
    (∀ u : LengthUnit, (text x).toUnit = .ok u ↔ ∃ w ∈ u.forms, (Text.trim x).IsLike w) ∧
    ((text x).toUnit = .error (.unknown x) ↔
      ∀ u : LengthUnit, ∀ w ∈ u.forms, ¬ (Text.trim x).IsLike w) ∧
    (∀ u : LengthUnit, (text x).toUnit = .ok u →
      (∀ c ∈ Text.trim x, c.val < 0x80) ∧ (text u.label).toUnit = .ok u) ∧
    ∀ cause, (text x).countIn t = .error cause ↔ (text x).toUnit = .error cause := by
  refine ⟨?_, ?_, ?_, fun _ => countIn_eq_error_iff t⟩
  · intro u
    rw [toUnit_text_eq_ok_iff, LengthUnit.ofText?_eq_some_iff]
  · rw [toUnit_text_eq_error_iff, LengthUnit.ofText?_eq_none_iff]
  · intro u hu
    rw [toUnit_text_eq_ok_iff, LengthUnit.ofText?_eq_some_iff] at hu
    obtain ⟨w, hw, hlike⟩ := hu
    exact ⟨fun _ => hlike.lt_of_mem (LengthUnit.isSteady_of_mem_forms hw), toUnit_label u⟩

end Value

namespace LengthUnit

def mixedSpelling : Text := 0x3000 :: Text.ofString "Utf_16-lE" ++ [0x2028]

theorem toUnit_mixedSpelling : (Value.text mixedSpelling).toUnit = .ok .utf16 ∧
    (∀ c ∈ Text.trim mixedSpelling, c.val < 0x80) ∧
    (Value.text utf16.label).toUnit = .ok .utf16 := by
  obtain ⟨haccepts, _, hascii, _⟩ := Value.toUnit_text_iff_isLike mixedSpelling []
  have hlike : ∃ w ∈ utf16.forms, (Text.trim mixedSpelling).IsLike w := by
    decide +kernel
  have hunit := (haccepts .utf16).mpr hlike
  exact ⟨hunit, hascii .utf16 hunit⟩

end LengthUnit

end DriveBridge
