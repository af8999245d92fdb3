import DriveBridge.Proofs.Adapter.Reports
import DriveBridge.Proofs.LengthUnit.Spelling

namespace DriveBridge

open Adapter Session

namespace LengthUnit

theorem mem_labels_iff {t : Text} : t ∈ labels ↔ ∃ u : LengthUnit, t = u.label := by
  constructor
  · intro h
    simp only [labels, List.mem_cons, List.not_mem_nil, or_false] at h
    rcases h with h | h
    · exact ⟨utf8, h⟩
    · exact ⟨utf16, h⟩
  · rintro ⟨u, rfl⟩
    cases u
    · exact List.mem_cons_self
    · exact List.mem_cons_of_mem _ List.mem_cons_self

end LengthUnit

theorem Environment.choice_mem (env : Environment) (v : Variable) {default : Text}
    {choices : List Text} (h : default ∈ choices) : env.choice v default choices ∈ choices := by
  rw [choice]
  split
  · assumption
  · exact h

namespace Configuration

def consulted : List Variable :=
  [.lengthUnit, .warnUnrestricted, .logDirectory, .logConsole, .logFullPaths, .logMaxMegabytes,
    .logMaxFiles]

theorem ofText_consulted : ∀ v ∈ consulted, Variable.ofText v.name = .ok v := by
  intro v hv
  simp only [consulted, List.mem_cons, List.not_mem_nil, or_false] at hv
  rcases hv with rfl | rfl | rfl | rfl | rfl | rfl | rfl
  all_goals rfl

theorem lengthUnit_read_mem (env : Environment) : (read env).lengthUnit ∈ LengthUnit.labels :=
  env.choice_mem .lengthUnit (LengthUnit.mem_labels_iff.mpr ⟨.utf8, rfl⟩)

end Configuration

namespace Session

variable {s : Session} {u : LengthUnit}

theorem step_measure_default (h : s.settings.lengthUnit = .text u.label) {path : Value} {t : Text}
    (hpath : path = .client ⟨t⟩ ∨ path = .host ⟨t⟩) :
    (s.step (.measure path .null)).2 = .ok (.value (.int (u.count t))) := by
  have hlength : s.lengthOf .null t = .ok (.value (.int (u.count t))) := by
    rw [lengthOf, Settings.unitOr, h, Value.countIn_label]
    rfl
  rw [step]
  rcases hpath with rfl | rfl <;> exact hlength

theorem openAdapter_default (h : s.settings.lengthUnit = .text u.label) {other : Text}
    {id : LoggerId} {l : Logger} (hl : s.logger? other = some (id, l)) {warn : Value}
    (hwarn : warn.isSound) (name : Text) :
    ∃ a opened, a.unit = u ∧
      s.step (.openAdapter name (some other) .null warn) = (opened, .ok (.adapter a)) ∧
      opened.adapter? name = some (a, id, l) := by
  obtain ⟨_, hname, hl⟩ := Option.bind_eq_some_iff.mp hl
  obtain ⟨_, hlogger, hl⟩ := Option.bind_eq_some_iff.mp hl
  cases hl
  have hsound : (Value.null.isSound && warn.isSound) = true := by
    rw [hwarn]
    rfl
  have hknown : (some other).any (fun other => (s.loggerNames.lookup other).isNone) = false := by
    rw [Option.any_some, hname]
    rfl
  refine ⟨⟨u, s.settings.warningsOr warn⟩, { s with
      loggerNames := (loggerNameOf name, id) :: s.loggerNames
      adapters := (name, ⟨u, s.settings.warningsOr warn⟩, id) :: s.adapters }, rfl, ?_, ?_⟩
  · rw [step, openAdapter, hknown, hsound, Settings.unitOr, h, Value.toUnit_label, adapterLogger,
      hname]
    rfl
  · rw [adapter?, List.lookup_cons_self]
    simp only [bind, Option.bind_some, hlogger]
    rfl

theorem step_adapterLength {name : Text} {a : Adapter} {id : LoggerId} {l : Logger}
    (h : s.adapter? name = some (a, id, l)) {path : Value} {t : Text}
    (hpath : path = .client ⟨t⟩ ∨ path = .host ⟨t⟩) :
    (s.step (.adapterLength name path)).2 = .ok (.value (.int (a.unit.count t))) := by
  have hsound : path.isSound := by
    rcases hpath with rfl | rfl <;> rfl
  have hstep := step_call h (c := .length path) hsound
  rw [callStep] at hstep
  rw [hstep]
  rcases hpath with rfl | rfl <;> rfl

/-- No environment keeps the configuration from being loaded with a known unit, and then every
length without a unit is counted in it, by the paths and by the adapters that are made without one,
whatever happens to those later. -/
theorem lengths_of_loaded (s : Session) (env : Environment) :
    (∀ v ∈ Configuration.consulted, Variable.ofText v.name = .ok v) ∧
    (s.step (.setEnvironment env)).2 = .ok .nothing ∧
    ∃ u : LengthUnit, (Configuration.read env).lengthUnit = u.label ∧ u.label ∈ LengthUnit.labels ∧
      ∀ (t : Text) (path : Value), path = .client ⟨t⟩ ∨ path = .host ⟨t⟩ →
        (Value.text (Configuration.read env).lengthUnit).countIn t = .ok (u.count t) ∧
        ((s.step (.setEnvironment env)).1.step (.measure path .null)).2 =
          .ok (.value (.int (u.count t))) ∧
        ∀ (name other : Text) (id : LoggerId) (l : Logger) (warn : Value),
          (s.step (.setEnvironment env)).1.logger? other = some (id, l) → warn.isSound →
          ∃ a opened,
            (s.step (.setEnvironment env)).1.step (.openAdapter name (some other) .null warn) =
              (opened, .ok (.adapter a)) ∧
            (opened.step (.adapterLength name path)).2 = .ok (.value (.int (u.count t))) ∧
            ∀ (later : Session) (known : Text) (id' : LoggerId) (l' : Logger),
              later.adapter? known = some (a, id', l') →
              (later.step (.adapterLength known path)).2 = .ok (.value (.int (u.count t))) := by
  have hmem := Configuration.lengthUnit_read_mem env
  obtain ⟨u, hu⟩ := LengthUnit.mem_labels_iff.mp hmem
  have hsettings : (s.step (.setEnvironment env)).1.settings.lengthUnit = .text u.label := by
    rw [← hu, step]
    rfl
  refine ⟨Configuration.ofText_consulted, by rw [step], u, hu, hu ▸ hmem, ?_⟩
  intro t path hpath
  refine ⟨?_, step_measure_default hsettings hpath, ?_⟩
  · rw [hu, Value.countIn_label]
  · intro name other id l warn hl hwarn
    obtain ⟨a, opened, rfl, hopened, hadapter⟩ := openAdapter_default hsettings hl hwarn name
    refine ⟨a, opened, hopened, step_adapterLength hadapter hpath, ?_⟩
    intro later known id' l' hlater
    exact step_adapterLength hlater hpath

end Session

namespace Loaded

def environment : Environment := ⟨[("RP_LENGTH_UNIT", " UTF-16 "), ("RP_LOG_MAX_FILES", "many")]⟩

def request : LoggerRequest := .plain "c"

def made : Session := ((start 0 "s" ⟨[]⟩).step (.createLogger "l" request)).1

def character : Text := [0x1F600]

theorem lengths_of_character : ∃ a opened,
    (made.step (.setEnvironment environment)).1.step
      (.openAdapter "p" (some "l") .null .null) = (opened, .ok (.adapter a)) ∧
    (opened.step (.adapterLength "p" (.host ⟨character⟩))).2 = .ok (.value (.int 2)) ∧
    ((made.step (.setEnvironment environment)).1.step (.measure (.host ⟨character⟩) .null)).2 =
      .ok (.value (.int 2)) := by
  obtain ⟨_, _, u, hu, _, hlengths⟩ := lengths_of_loaded made environment
  have hlabel : (Configuration.read environment).lengthUnit = LengthUnit.utf16.label := by
    decide +kernel
  obtain rfl : u = .utf16 := by
    rw [hu] at hlabel
    cases u
    · cases hlabel
    · rfl
  obtain ⟨_, hmeasure, hadapters⟩ := hlengths character _ (.inr rfl)
  have hlogger : (made.step (.setEnvironment environment)).1.logger? "l" =
      some (0, (request.complete made.configuration).loggerAt .null made.world none none) := rfl
  obtain ⟨a, opened, hopened, hlength, _⟩ := hadapters "p" "l" _ _ .null hlogger rfl
  exact ⟨a, opened, hopened, hlength, hmeasure⟩

end Loaded

end DriveBridge
