import DriveBridge.Proofs.LengthUnit.Counting
import DriveBridge.Proofs.Path.Conversion
import DriveBridge.Session.Run

namespace DriveBridge

open CodePoint

namespace Session

variable {s : Session} {v : Value} {u : LengthUnit}

theorem lengthOf_of_toUnit (hv : v.toUnit = .ok u) (t : Text) :
    s.lengthOf v t = .ok (.value (.int (u.count t))) := by
  have hgiven : v.isSound = true ∧ s.settings.unitOr v = v := by
    cases v
    case unit => exact ⟨rfl, rfl⟩
    case text => exact ⟨rfl, rfl⟩
    all_goals cases hv
  rw [lengthOf, hgiven.1, hgiven.2, Value.countIn_of_toUnit hv]
  rfl

theorem measure_client (hv : v.toUnit = .ok u) (p : ClientPath) :
    s.measure (.client p) v = .ok (.value (.int (u.count p.text))) :=
  lengthOf_of_toUnit hv p.text

theorem measure_host (hv : v.toUnit = .ok u) (q : HostPath) :
    s.measure (.host q) v = .ok (.value (.int (u.count q.text))) :=
  lengthOf_of_toUnit hv q.text

end Session

namespace LengthUnit

theorem count_separator {c : CodePoint} (u : LengthUnit) (hc : c.isSeparator) :
    u.count [c] = 1 := by
  rw [isSeparator, Bool.or_eq_true, beq_iff_eq, beq_iff_eq] at hc
  rcases hc with rfl | rfl
  · exact u.count_ascii (by decide)
  · exact u.count_ascii (by decide)

theorem count_replace {a b : CodePoint} (u : LengthUnit) (ha : a.isSeparator) (hb : b.isSeparator)
    (t : Text) : u.count (Text.replace a b t) = u.count t :=
  u.isAdditive_count.replace ((u.count_separator ha).trans (u.count_separator hb).symm) t

theorem count_toHost (u : LengthUnit) (p : ClientPath) : u.count p.text =
    u.count p.toHost.text + if p.text.head?.any isSeparator then 1 else 0 := by
  obtain ⟨t⟩ := p
  rw [ClientPath.toHost, ← u.count_replace (a := backslash) (b := slash) rfl rfl t]
  cases t with
  | nil => rfl
  | cons c t =>
    rw [Text.replace_cons, List.head?_cons, Option.any_some]
    by_cases hc : c.isSeparator
    · rw [(Text.replaced_eq_slash_iff c).mpr hc, ClientPath.dropRoot_slash, if_pos hc,
        u.isAdditive_count.cons, u.count_separator rfl, Nat.add_comm]
    · have hslash := mt (Text.replaced_eq_slash_iff c).mp hc
      rw [ClientPath.dropRoot_of_head (by simpa using hslash), if_neg hc, Nat.add_zero]

theorem count_toClient (u : LengthUnit) (q : HostPath) :
    u.count q.toClient.text = u.count q.text + 1 := by
  rw [HostPath.toClient, u.isAdditive_count.cons, u.count_separator rfl,
    u.count_replace rfl rfl, Nat.add_comm]

end LengthUnit

namespace Session

/-- On its way to the host a path becomes one unit shorter if it begins with a separator and keeps
its length otherwise, and on its way back it becomes one unit longer, whichever the unit is. -/
theorem lengths_of_converted (s : Session) {v : Value} {u : LengthUnit} (hv : v.toUnit = .ok u)
    (p : ClientPath) (q : HostPath) :
    s.measure (.client p) v = .ok (.value (.int (u.count p.text))) ∧
    s.measure (.host p.toHost) v = .ok (.value (.int
      (if p.text.head?.any isSeparator then (u.count p.text : Int) - 1 else u.count p.text))) ∧
    s.measure (.host q) v = .ok (.value (.int (u.count q.text))) ∧
    s.measure (.client q.toClient) v = .ok (.value (.int (u.count q.text + 1))) := by
  refine ⟨measure_client hv p, ?_, measure_host hv q, ?_⟩
  · have hshorter := u.count_toHost p
    rw [measure_host hv, hshorter]
    split
    · rw [Int.natCast_add, Int.natCast_one, Int.add_sub_cancel]
    · rw [Nat.add_zero]
  · rw [measure_client hv, u.count_toClient, Int.natCast_add, Int.natCast_one]

end Session

namespace Converted

def text : Text := [slash, backslash, 0xD800, 0x1F600]

def session : Session := .start 0 "s" ⟨[]⟩

theorem lengths_of_halves : (Value.text "UTF_16").toUnit = .ok .utf16 ∧
    session.measure (.client ⟨text⟩) (.text "UTF_16") = .ok (.value (.int 5)) ∧
    session.measure (.host (ClientPath.mk text).toHost) (.text "UTF_16") =
      .ok (.value (.int 4)) ∧
    session.measure (.client (HostPath.mk text).toClient) (.text "UTF_16") =
      .ok (.value (.int 6)) := by
  have hv : (Value.text "UTF_16").toUnit = .ok .utf16 :=
    Value.toUnit_of_some (by decide +kernel)
  obtain ⟨hclient, hhost, _, hback⟩ := session.lengths_of_converted hv ⟨text⟩ ⟨text⟩
  exact ⟨hv, hclient, hhost, hback⟩

end Converted

end DriveBridge
