import DriveBridge.Proofs.Config.Fallback
import DriveBridge.Proofs.Numeral.Grammar

namespace DriveBridge

namespace Environment

open Integer

variable {env : Environment} {v : Variable} {x : Text} {n default : Int}

theorem integer_of_unset (h : env.get? v = none)
    (hdefault : (digits default.natAbs).length ≤ maxDigits) :
    env.integer v (.int default) = .int default := by
  have htext : env.text v (Value.int default).display = toText default := by
    rw [text, h]
    rfl
  rw [integer, htext, ofText_toText hdefault]
  rfl

theorem integers_of_denotes (h : env.get? v = some x) (hx : Denotes (Text.trimWhile isMargin x) n)
    (default : Value) : env.integer v default = .int n ∧ env.integer? v = some n := by
  have hread := ofText_eq_some_iff.mpr hx
  rw [integer, integer?, text_of_set h, h, Option.bind_some, hread]
  exact ⟨rfl, rfl⟩

theorem integers_of_not_denotes (h : env.get? v = some x)
    (hx : ∀ n, ¬ Denotes (Text.trimWhile isMargin x) n) (default : Value) :
    env.integer v default = default ∧ env.integer? v = none := by
  have hread := ofText_eq_none_iff.mpr hx
  rw [integer, integer?, text_of_set h, h, Option.bind_some, hread]
  exact ⟨rfl, rfl⟩

theorem integer?_eq_ite (env : Environment) (v : Variable) : env.integer? v =
    if Text.trim (env.text v []) = [] then none else ofText? (env.text v []) := by
  rw [integer?, text]
  cases env.get? v with
  | none => rfl
  | some x =>
    rw [Option.bind_some, Option.getD_some]
    split
    · rename_i hblank
      cases hread : ofText? x with
      | none => rfl
      | some n =>
        have htrim := ofText?_trim hread
        rw [hblank] at htrim
        cases htrim
    · rfl

/-- The reader without a default looks for white space of every kind first, and the other reads its
default from the text of it. Neither makes a difference to what a numeral denotes. -/
theorem integers_agree (env : Environment) (v : Variable)
    (hdefault : (digits default.natAbs).length ≤ maxDigits) :
    (env.integer? v =
      if Text.trim (env.text v []) = [] then none else ofText? (env.text v [])) ∧
    (env.get? v = none → env.integer v (.int default) = .int default ∧ env.integer? v = none) ∧
    (∀ x, env.get? v = some x →
      (∀ n, Denotes (Text.trimWhile isMargin x) n →
        env.integer v (.int default) = .int n ∧ env.integer? v = some n) ∧
      ((∀ n, ¬ Denotes (Text.trimWhile isMargin x) n) →
        env.integer v (.int default) = .int default ∧ env.integer? v = none)) ∧
    ∀ n, (digits n.natAbs).length ≤ maxDigits → env.get? v = some (toText n) →
      env.integer v (.int default) = .int n ∧ env.integer? v = some n := by
  refine ⟨integer?_eq_ite env v, ?_, ?_, ?_⟩
  · intro h
    refine ⟨integer_of_unset h hdefault, ?_⟩
    rw [integer?, h]
    rfl
  · intro x h
    constructor
    · intro n hx
      exact integers_of_denotes h hx _
    · intro hx
      exact integers_of_not_denotes h hx _
  · intro n hn h
    have hx := ofText_eq_some_iff.mp (ofText_toText hn)
    exact integers_of_denotes h hx _

end Environment

namespace IntegerVariables

open Environment Integer

def mixed : Text := [0xA0, 0x2D, 0x664, 0x5F, 0x32, 0x0A]

def env : Environment where
  values := [
    (Variable.logMaxMegabytes.name, mixed),
    (Variable.logMaxFiles.name, "1__0"),
    (Variable.lengthUnit.name, toText (-16))]

theorem denotes_mixed : Denotes (Text.trimWhile isMargin mixed) (-42) :=
  .minus ⟨[4, 2], .apart rfl (.last rfl), by decide, rfl⟩

theorem integers_of_env :
    (env.integer .logMaxMegabytes (.int 7) = .int (-42) ∧
      env.integer? .logMaxMegabytes = some (-42)) ∧
    (env.integer .logMaxFiles (.int 7) = .int 7 ∧ env.integer? .logMaxFiles = none) ∧
    (env.integer .lengthUnit (.int 7) = .int (-16) ∧ env.integer? .lengthUnit = some (-16)) ∧
    env.integer .logDirectory (.int 7) = .int 7 ∧ env.integer? .logDirectory = none := by
  have hdefault : (digits (Int.natAbs 7)).length ≤ maxDigits := by decide
  refine ⟨?_, ?_, ?_, ?_⟩
  · exact ((integers_agree env _ hdefault).2.2.1 mixed rfl).1 _ denotes_mixed
  · exact ((integers_agree env _ hdefault).2.2.1 _ rfl).2 (ofText_eq_none_iff.mp rfl)
  · exact (integers_agree env _ hdefault).2.2.2 (-16) (by decide) rfl
  · exact (integers_agree env _ hdefault).2.1 rfl

end IntegerVariables

end DriveBridge
