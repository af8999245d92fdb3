import DriveBridge.Proofs.Config.Fallback
import DriveBridge.Proofs.Config.Loading

namespace DriveBridge

open Environment

namespace LengthUnit

variable {x : Text} {u : LengthUnit}

def configured (x : Text) : LengthUnit := if (Text.trim x).IsLike utf16.label then utf16 else utf8

theorem lower_eq_label_iff : Text.lower (Text.trim x) = u.label ↔ (Text.trim x).IsLike u.label :=
  Text.lower_eq_iff (isSteady_of_mem_forms u.label_mem_forms)

theorem lengthUnit_read {env : Environment} (h : env.get? .lengthUnit = some x) :
    (Configuration.read env).lengthUnit = (configured x).label := by
  change env.choice .lengthUnit utf8.label labels = _
  rw [choice, text_of_set h, configured]
  by_cases hlike : (Text.trim x).IsLike utf16.label
  · rw [if_pos hlike, lower_eq_label_iff.mpr hlike]
    exact if_pos (mem_labels_iff.mpr ⟨utf16, rfl⟩)
  · rw [if_neg hlike]
    split
    · rename_i hword
      obtain ⟨u, hu⟩ := mem_labels_iff.mp hword
      cases u with
      | utf8 => exact hu
      | utf16 => exact absurd (lower_eq_label_iff.mp hu) hlike
    · rfl

theorem configured_eq_iff (hu : ofText? x = some u) :
    configured x = u ↔ u = utf8 ∨ (Text.trim x).IsLike utf16.label := by
  rw [configured]
  split
  · rename_i hlike
    have hother := (ofText?_of_isLike hlike).symm.trans hu
    exact ⟨fun _ => .inr hlike, fun _ => Option.some.inj hother⟩
  · rename_i hlike
    exact ⟨fun h => .inl h.symm, fun h => (h.resolve_right hlike).symm⟩

theorem eq_of_count_eq {v : LengthUnit} (h : ∀ t, u.count t = v.count t) : u = v := by
  have hcharacter := h [0xE9]
  cases u <;> cases v
  case utf8.utf8 => rfl
  case utf16.utf16 => rfl
  all_goals exact absurd hcharacter (by decide +kernel)

end LengthUnit

namespace Session

variable {env : Environment} {x : Text} {u : LengthUnit} {path : Value} {t : Text}

theorem step_measure_text (s : Session) (hu : LengthUnit.ofText? x = some u)
    (hpath : path = .client ⟨t⟩ ∨ path = .host ⟨t⟩) :
    (s.step (.measure path (.text x))).2 = .ok (.value (.int (u.count t))) := by
  have hlength : s.lengthOf (.text x) t = .ok (.value (.int (u.count t))) :=
    lengthOf_of_toUnit (Value.toUnit_of_some hu) t
  rw [step]
  rcases hpath with rfl | rfl <;> exact hlength

/-- With a spelling of a unit for the configured one, lengths without a unit are those of the
configured unit, and they are the same as with that spelling for a unit exactly if it is one of
UTF-8 or the label of UTF-16. -/
theorem lengths_of_configured (s : Session) (h : env.get? .lengthUnit = some x)
    (hu : LengthUnit.ofText? x = some u) :
    (∀ (t : Text) (path : Value), path = .client ⟨t⟩ ∨ path = .host ⟨t⟩ →
      ((s.step (.setEnvironment env)).1.step (.measure path .null)).2 =
        .ok (.value (.int ((LengthUnit.configured x).count t))) ∧
      ((s.step (.setEnvironment env)).1.step (.measure path (.text x))).2 =
        .ok (.value (.int (u.count t)))) ∧
    ((∀ (t : Text) (path : Value), path = .client ⟨t⟩ ∨ path = .host ⟨t⟩ →
      ((s.step (.setEnvironment env)).1.step (.measure path .null)).2 =
        ((s.step (.setEnvironment env)).1.step (.measure (.client ⟨t⟩) (.text x))).2) ↔
      u = .utf8 ∨ (Text.trim x).IsLike LengthUnit.utf16.label) := by
  have hsettings : (s.step (.setEnvironment env)).1.settings.lengthUnit =
      .text (LengthUnit.configured x).label := by
    rw [← LengthUnit.lengthUnit_read h, step]
    rfl
  constructor
  · intro t path hpath
    exact ⟨step_measure_default hsettings hpath, step_measure_text _ hu hpath⟩
  rw [← LengthUnit.configured_eq_iff hu]
  constructor
  · intro hsame
    apply LengthUnit.eq_of_count_eq
    intro t
    have ht := hsame t _ (.inl rfl)
    rw [step_measure_default hsettings (.inl rfl), step_measure_text _ hu (.inl rfl)] at ht
    injection ht with ht
    injection ht with ht
    injection ht with ht
    exact Int.ofNat.inj ht
  · intro hsame t path hpath
    rw [step_measure_default hsettings hpath, step_measure_text _ hu (.inl rfl), hsame]

end Session

namespace Spelled

def session : Session := .start 0 "s" ⟨[]⟩

def label : Text := " Utf-16 "

def abbreviation : Text := "utf16"

def environment (x : Text) : Environment := ⟨[("RP_LENGTH_UNIT", x)]⟩

def loaded (x : Text) : Session := (session.step (.setEnvironment (environment x))).1

theorem same_of_label : LengthUnit.ofText? label = some .utf16 ∧ ∀ t,
    ((loaded label).step (.measure (.host ⟨t⟩) .null)).2 =
      ((loaded label).step (.measure (.client ⟨t⟩) (.text label))).2 := by
  have hset : (environment label).get? .lengthUnit = some label := by
    decide +kernel
  have hu : LengthUnit.ofText? label = some .utf16 := by
    decide +kernel
  have hlike : (Text.trim label).IsLike LengthUnit.utf16.label := by
    decide +kernel
  have hsame := (Session.lengths_of_configured session hset hu).2.mpr (.inr hlike)
  exact ⟨hu, fun t => hsame t _ (.inr rfl)⟩

def character : Text := [0xE9]

/-- The short name of UTF-16 is known as a unit, but not to the configuration. -/
theorem other_of_abbreviation : (environment abbreviation).get? .lengthUnit = some abbreviation ∧
    LengthUnit.ofText? abbreviation = some .utf16 ∧
    ((loaded abbreviation).step (.measure (.client ⟨character⟩) .null)).2 = .ok (.value (.int 2)) ∧
    ((loaded abbreviation).step (.measure (.client ⟨character⟩) (.text abbreviation))).2 =
      .ok (.value (.int 1)) := by
  have hset : (environment abbreviation).get? .lengthUnit = some abbreviation := by
    decide +kernel
  have hu : LengthUnit.ofText? abbreviation = some .utf16 := by
    decide +kernel
  have hloaded : (loaded abbreviation).settings.lengthUnit = .text LengthUnit.utf8.label := by
    have hread := LengthUnit.lengthUnit_read hset
    rw [loaded, Session.step]
    exact congrArg Value.text hread
  refine ⟨hset, hu, ?_, ?_⟩
  · exact Session.step_measure_default hloaded (.inl rfl)
  · exact Session.step_measure_text _ hu (.inl rfl)

end Spelled

end DriveBridge
