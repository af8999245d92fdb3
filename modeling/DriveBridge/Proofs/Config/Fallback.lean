import DriveBridge.Config.Basic
import DriveBridge.Disk.Lemmas
import DriveBridge.Proofs.Numeral.Margins
import DriveBridge.Proofs.Text.LetterCase

namespace DriveBridge

open Environment

namespace Environment

variable {env : Environment} {u v : Variable} {x : Text}

def unset (env : Environment) (v : Variable) : Environment :=
  ⟨env.values.filter (·.1 ≠ v.name)⟩

theorem get?_unset (env : Environment) (v u : Variable) :
    (env.unset v).get? u = if u.name = v.name then none else env.get? u :=
  Disk.lookup_filter_ne v.name u.name env.values

theorem get?_unset_self (env : Environment) (v : Variable) : (env.unset v).get? v = none := by
  rw [get?_unset, if_pos rfl]

theorem get?_unset_of_ne (h : u.name ≠ v.name) : (env.unset v).get? u = env.get? u := by
  rw [get?_unset, if_neg h]

theorem text_unset_self (env : Environment) (v : Variable) (default : Text) :
    (env.unset v).text v default = default := by
  rw [text, get?_unset_self]
  rfl

theorem text_unset_of_ne (h : u.name ≠ v.name) (default : Text) :
    (env.unset v).text u default = env.text u default := by
  rw [text, get?_unset_of_ne h, text]

theorem text_of_set (h : env.get? v = some x) (default : Text) : env.text v default = x := by
  rw [text, h]
  rfl

def negations : List Text := ["0", "false", "no", "off"]

def flagWords : List Text := affirmations ++ negations

theorem isSteady_of_mem : ∀ w ∈ LengthUnit.labels ++ flagWords, ∀ c ∈ w, c.isSteady := by
  have hall : (LengthUnit.labels ++ flagWords).all (·.all CodePoint.isSteady) := by
    decide +kernel
  intro w hw c hc
  exact List.all_eq_true.mp (List.all_eq_true.mp hall w hw) c hc

theorem isAffirmative_iff : isAffirmative x ↔ ∃ w ∈ affirmations, (Text.trim x).IsLike w := by
  rw [isAffirmative, decide_eq_true_iff]
  apply Text.lower_mem_iff
  intro w hw
  exact isSteady_of_mem w (List.mem_append_right _ (List.mem_append_left negations hw))

theorem choice_of_unknown {choices : List Text} (h : env.get? v = some x)
    (hx : Text.lower (Text.trim x) ∉ choices) (default : Text) :
    env.choice v default choices = default := by
  rw [choice, text_of_set h]
  exact if_neg hx

theorem flag_of_unknown (h : env.get? v = some x) (hx : ¬ ∃ w ∈ flagWords, (Text.trim x).IsLike w)
    (default : Value) : env.flag v default = false := by
  rw [flag, text_of_set h, ← Bool.not_eq_true, isAffirmative_iff]
  rintro ⟨w, hw, hlike⟩
  exact hx ⟨w, List.mem_append_left negations hw, hlike⟩

theorem ofText?_of_unknown (hx : ¬ (Integer.ofText? (Text.trim x)).isSome) :
    Integer.ofText? x = none := by
  cases hread : Integer.ofText? x with
  | none => rfl
  | some n =>
    rw [Integer.ofText?_trim hread] at hx
    exact absurd rfl hx

theorem integer?_of_unknown (h : env.get? v = some x)
    (hx : ¬ (Integer.ofText? (Text.trim x)).isSome) : env.integer? v = none := by
  rw [integer?, h]
  exact ofText?_of_unknown hx

theorem integer_of_unknown (h : env.get? v = some x)
    (hx : ¬ (Integer.ofText? (Text.trim x)).isSome) (default : Value) :
    env.integer v default = default := by
  rw [integer, text_of_set h, ofText?_of_unknown hx]
  rfl

end Environment

inductive Setting
  | lengthUnit
  | warnUnrestricted
  | logConsole
  | logFullPaths
  | logMaxMegabytes
  | logMaxFiles
  deriving DecidableEq

namespace Setting

def source : Setting → Variable
  | lengthUnit => .lengthUnit
  | warnUnrestricted => .warnUnrestricted
  | logConsole => .logConsole
  | logFullPaths => .logFullPaths
  | logMaxMegabytes => .logMaxMegabytes
  | logMaxFiles => .logMaxFiles

def Understands : Setting → Text → Prop
  | lengthUnit, x => ∃ w ∈ LengthUnit.labels, (Text.trim x).IsLike w
  | warnUnrestricted, x | logConsole, x | logFullPaths, x =>
    ∃ w ∈ flagWords, (Text.trim x).IsLike w
  | logMaxMegabytes, x | logMaxFiles, x => (Integer.ofText? (Text.trim x)).isSome

instance : (k : Setting) → (x : Text) → Decidable (k.Understands x)
  | lengthUnit, x => inferInstanceAs (Decidable (∃ w ∈ LengthUnit.labels, (Text.trim x).IsLike w))
  | warnUnrestricted, x | logConsole, x | logFullPaths, x =>
    inferInstanceAs (Decidable (∃ w ∈ flagWords, (Text.trim x).IsLike w))
  | logMaxMegabytes, x | logMaxFiles, x =>
    inferInstanceAs (Decidable ((Integer.ofText? (Text.trim x)).isSome))

def restore : Setting → Configuration → Configuration
  | lengthUnit, c => { c with lengthUnit := LengthUnit.utf8.label }
  | warnUnrestricted, c => { c with warnUnrestricted := true }
  | logConsole, c => { c with console := false }
  | logFullPaths, c => { c with fullPaths := false }
  | logMaxMegabytes, c => { c with maxMegabytes := none }
  | logMaxFiles, c => { c with maxFiles := .int 5 }

end Setting

namespace Configuration

open Setting

variable {env : Environment} {x : Text}

theorem read_unset (env : Environment) (k : Setting) :
    read (env.unset k.source) = k.restore (read env) := by
  have hunit : Text.lower (Text.trim LengthUnit.utf8.label) = LengthUnit.utf8.label := by
    decide +kernel
  have hfiles : Integer.ofText? (Value.int 5).display = some 5 := by
    decide +kernel
  have hyes : isAffirmative (Value.bool true).display = true := by
    decide +kernel
  have hno : isAffirmative (Value.bool false).display = false := by
    decide +kernel
  cases k <;>
    simp (disch := decide) only [read, source, restore, flag, integer, integer?, choice,
      text_unset_of_ne, text_unset_self, get?_unset_of_ne, get?_unset_self]
  case lengthUnit => rw [hunit, ite_self]
  case warnUnrestricted => rw [hyes]
  case logConsole => rw [hno]
  case logFullPaths => rw [hno]
  case logMaxMegabytes => rfl
  case logMaxFiles => rw [hfiles]; rfl

theorem restore_read {k : Setting} (hk : k ≠ .warnUnrestricted) (h : env.get? k.source = some x)
    (hx : ¬ k.Understands x) : k.restore (read env) = read env := by
  cases k with
  | lengthUnit =>
    have hword : Text.lower (Text.trim x) ∉ LengthUnit.labels := by
      rwa [Text.lower_mem_iff fun w hw => isSteady_of_mem w (List.mem_append_left flagWords hw)]
    have hfield : (read env).lengthUnit = LengthUnit.utf8.label := choice_of_unknown h hword _
    rw [restore, ← hfield]
  | warnUnrestricted => exact absurd rfl hk
  | logConsole =>
    have hfield : (read env).console = false := flag_of_unknown h hx _
    rw [restore, ← hfield]
  | logFullPaths =>
    have hfield : (read env).fullPaths = false := flag_of_unknown h hx _
    rw [restore, ← hfield]
  | logMaxMegabytes =>
    have hfield : (read env).maxMegabytes = none := integer?_of_unknown h hx
    rw [restore, ← hfield]
  | logMaxFiles =>
    have hfield : (read env).maxFiles = .int 5 := integer_of_unknown h hx _
    rw [restore, ← hfield]

/-- A value that is not understood leaves the whole configuration as it is without the variable, but
for the warnings: these are off with such a value and on without one. -/
theorem read_of_unknown {k : Setting} (h : env.get? k.source = some x) (hx : ¬ k.Understands x) :
    (k ≠ .warnUnrestricted → read env = read (env.unset k.source)) ∧
    (k = .warnUnrestricted →
      read env = { read (env.unset k.source) with warnUnrestricted := false } ∧
      (read (env.unset k.source)).warnUnrestricted = true) := by
  rw [read_unset]
  constructor
  · intro hk
    exact (restore_read hk h hx).symm
  · rintro rfl
    have hfield : (read env).warnUnrestricted = false := flag_of_unknown h hx _
    refine ⟨?_, rfl⟩
    rw [restore, ← hfield]

end Configuration

namespace Mistyped

def slip : Text := "ture"

def console : Environment := ⟨[("RP_LOG_CONSOLE", slip), ("RP_LOG_MAX_FILES", "3")]⟩

def warnings : Environment := ⟨[("RP_WARN_UNRESTRICTED", slip)]⟩

theorem console_off : console.get? .logConsole = some slip ∧
    ¬ Setting.Understands .logConsole slip ∧
    Configuration.read console = Configuration.read (console.unset .logConsole) := by
  have hset : console.get? (Setting.source .logConsole) = some slip := by
    decide +kernel
  have hslip : ¬ Setting.Understands .logConsole slip := by
    decide +kernel
  exact ⟨hset, hslip, (Configuration.read_of_unknown hset hslip).1 (by decide)⟩

/-- A slip in the value turns the warnings off that are on without it. -/
theorem warnings_off : warnings.get? .warnUnrestricted = some slip ∧
    ¬ Setting.Understands .warnUnrestricted slip ∧
    (Configuration.read warnings).warnUnrestricted ≠
      (Configuration.read (warnings.unset .warnUnrestricted)).warnUnrestricted := by
  decide +kernel

end Mistyped

end DriveBridge
