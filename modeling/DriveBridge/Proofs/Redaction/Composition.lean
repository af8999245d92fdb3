import DriveBridge.Proofs.Redaction.Parts

namespace DriveBridge

open CodePoint Value

namespace Redactor

structure IsUnion (r s u : Redactor) : Prop where
  enabled_left : r.enabled.isTrue = u.enabled.isTrue
  enabled_right : s.enabled.isTrue = u.enabled.isTrue
  mem_names_iff (t : Text) : t ∈ u.names ↔ t ∈ r.names ∨ t ∈ s.names

variable {r s u : Redactor}

theorem IsUnion.self (r : Redactor) : IsUnion r r r := ⟨rfl, rfl, fun _ => or_self_iff.symm⟩

theorem IsUnion.symm (h : IsUnion r s u) : IsUnion s r u where
  enabled_left := h.enabled_right
  enabled_right := h.enabled_left
  mem_names_iff t := by
    rw [h.mem_names_iff, or_comm]

theorem redactPath_congr (h : r.enabled.isTrue = s.enabled.isTrue) (t : Text) :
    r.redactPath t = s.redactPath t := by
  rw [redactPath, redactPath, h]

theorem redactPath_redactPath (r : Redactor) (t : Text) :
    r.redactPath (r.redactPath t) = r.redactPath t := by
  by_cases hr : r.enabled.isTrue
  · rw [redactPath_eq hr t]
    have hlast := t.any_isSeparator_lastPart
    split
    · -- The mark before a last part is a path with that last part.
      exact redactPath_of_separator hr mark rfl hlast
    · exact redactPath_eq_self (.inr hlast)
  · rw [Bool.not_eq_true] at hr
    rw [redactPath_eq_self (.inl hr), redactPath_eq_self (.inl hr)]

theorem IsUnion.redactPath_redactPath (h : IsUnion r s u) (t : Text) :
    s.redactPath (r.redactPath t) = u.redactPath t := by
  rw [redactPath_congr h.enabled_left, redactPath_congr h.enabled_right,
    u.redactPath_redactPath]

theorem redactValue_mark (r : Redactor) : r.redactValue (.text mark) = some (.text mark) := by
  rw [redactValue, redactPath_eq_self (.inr rfl)]

theorem IsUnion.exists_shown (h : IsUnion r s u) (k : Text) {v : Value}
    (hv : ∃ w, r.redactValue v = some w ∧ s.redactValue w = u.redactValue v) :
    ∃ w, r.shown (.text k) v = some w ∧ s.shown (.text k) w = u.shown (.text k) v := by
  have hk := h.mem_names_iff (Text.lower k)
  by_cases hr : Text.lower k ∈ r.names
  · refine ⟨.text mark, shown_of_sensitive hr v, ?_⟩
    rw [shown_of_sensitive (hk.mpr (.inl hr))]
    by_cases hs : Text.lower k ∈ s.names
    · exact shown_of_sensitive hs _
    · -- The mark is no path, so it stays where the name is sensitive for the first one only.
      rw [shown_of_not_sensitive hs, redactValue_mark]
  · obtain ⟨w, hw, hsw⟩ := hv
    refine ⟨w, ?_, ?_⟩
    · rw [shown_of_not_sensitive hr, hw]
    · by_cases hs : Text.lower k ∈ s.names
      · rw [shown_of_sensitive hs, shown_of_sensitive (hk.mpr (.inr hs))]
      · have hu : Text.lower k ∉ u.names := by
          rw [hk, not_or]
          exact ⟨hr, hs⟩
        rw [shown_of_not_sensitive hs, shown_of_not_sensitive hu, hsw]

mutual

theorem IsUnion.exists_redactValue (h : IsUnion r s u) : ∀ {v : Value}, v.hasTextKeys →
    ∃ w, r.redactValue v = some w ∧ s.redactValue w = u.redactValue v
  | .table es, hv => by
    obtain ⟨ws, hws, hs⟩ := h.exists_redactEntries hv
    refine ⟨.table ws, ?_, ?_⟩
    · rw [redactValue, hws, Option.map_some]
    · rw [redactValue, redactValue, hs]
  | .list items, hv => by
    obtain ⟨ws, hws, hs⟩ := h.exists_redactItems hv
    refine ⟨.list ws, ?_, ?_⟩
    · rw [redactValue, hws, Option.map_some]
    · rw [redactValue, redactValue, hs]
  | .text t, _ => by
    refine ⟨_, by rw [redactValue], ?_⟩
    rw [redactValue, redactValue, h.redactPath_redactPath]
  | .location p, _ => by
    -- It becomes a text here, which the second redaction treats like any other text.
    refine ⟨_, by rw [redactValue], ?_⟩
    rw [redactValue, redactValue, h.redactPath_redactPath]
  | .tuple _, _ | .client _, _ | .host _, _ | .null, _ | .bool _, _ | .int _, _ | .float _, _
  | .octets _, _ | .unit _, _ => ⟨_, rfl, rfl⟩

theorem IsUnion.exists_redactItem (h : IsUnion r s u) : ∀ {v : Value}, v.hasTextKeys →
    ∃ w, r.redactItem v = some w ∧ s.redactItem w = u.redactItem v
  | .table es, hv => by
    obtain ⟨ws, hws, hs⟩ := h.exists_redactEntries hv
    refine ⟨.table ws, ?_, ?_⟩
    · rw [redactItem, hws, Option.map_some]
    · rw [redactItem, redactItem, hs]
  | .text t, _ => by
    refine ⟨_, by rw [redactItem], ?_⟩
    rw [redactItem, redactItem, h.redactPath_redactPath]
  | .list _, _ | .location _, _ | .tuple _, _ | .client _, _ | .host _, _ | .null, _ | .bool _, _
  | .int _, _ | .float _, _ | .octets _, _ | .unit _, _ => ⟨_, rfl, rfl⟩

theorem IsUnion.exists_redactItems (h : IsUnion r s u) : ∀ {items : List Value},
    itemsHaveTextKeys items →
      ∃ ws, r.redactItems items = some ws ∧ s.redactItems ws = u.redactItems items
  | [], _ => ⟨[], by rw [redactItems], by rw [redactItems, redactItems]⟩
  | v :: items, hitems => by
    rw [itemsHaveTextKeys, Bool.and_eq_true] at hitems
    obtain ⟨w, hw, hs⟩ := h.exists_redactItem hitems.1
    obtain ⟨ws, hws, hss⟩ := h.exists_redactItems hitems.2
    refine ⟨w :: ws, ?_, ?_⟩
    · rw [redactItems_cons, hw, hws]
      rfl
    · rw [redactItems_cons, redactItems_cons, hs, hss]

theorem IsUnion.exists_redactEntries (h : IsUnion r s u) : ∀ {es : List (Value × Value)},
    entriesHaveTextKeys es →
      ∃ ws, r.redactEntries es = some ws ∧ s.redactEntries ws = u.redactEntries es
  | [], _ =>
    ⟨[], by rw [redactEntries], by rw [redactEntries, redactEntries]⟩
  | (k, v) :: es, hes => by
    obtain ⟨t, v, he, hv, hrest⟩ := exists_of_entriesHaveTextKeys hes
    cases he
    obtain ⟨w, hw, hs⟩ := h.exists_shown t (h.exists_redactValue hv)
    obtain ⟨ws, hws, hss⟩ := h.exists_redactEntries hrest
    refine ⟨(.text t, w) :: ws, ?_, ?_⟩
    · rw [redactEntries_cons, hw, hws]
      rfl
    · rw [redactEntries_cons, redactEntries_cons, hs, hss]

end

theorem IsUnion.bind_redactEntries (h : IsUnion r s u) {es : List (Value × Value)}
    (hes : entriesHaveTextKeys es) :
    (r.redactEntries es).bind s.redactEntries = u.redactEntries es := by
  obtain ⟨ws, hws, hs⟩ := h.exists_redactEntries hes
  rw [hws, Option.bind_some, hs]

inductive Told (enabled : Value) : List Text → Redactor → Prop
  | made (names : List Text) : Told enabled names (make enabled names)
  | added {names : List Text} {r r' : Redactor} (t : Text) (h : Told enabled names r)
      (ha : r.add (.text t) = some r') : Told enabled (t :: names) r'

theorem Told.enabled_eq {enabled : Value} {names : List Text} (h : Told enabled names r) :
    r.enabled = enabled := by
  induction h with
  | made => rfl
  | added t _ ha ih =>
    obtain rfl := Option.some.inj ha
    exact ih

theorem Told.mem_names_iff {enabled : Value} {names : List Text} (h : Told enabled names r)
    (t : Text) : t ∈ r.names ↔ t ∈ defaultNames ∨ t ∈ names.map Text.lower := by
  induction h with
  | made names => exact List.mem_append
  | added n _ ha ih =>
    obtain rfl := Option.some.inj ha
    rw [List.mem_append, ih, List.mem_singleton, List.map_cons, List.mem_cons]
    tauto

theorem isUnion_of_told {enabled : Value} {xs ys zs : List Text} (hr : Told enabled xs r)
    (hs : Told enabled ys s) (hu : Told enabled zs u)
    (hz : ∀ t, t ∈ zs.map Text.lower ↔ t ∈ xs.map Text.lower ∨ t ∈ ys.map Text.lower) :
    IsUnion r s u where
  enabled_left := by
    rw [hr.enabled_eq, hu.enabled_eq]
  enabled_right := by
    rw [hs.enabled_eq, hu.enabled_eq]
  mem_names_iff t := by
    rw [hr.mem_names_iff, hs.mem_names_iff, hu.mem_names_iff, hz]
    tauto

/-- Two redactions, in any order, are the one with the sensitive names of both, and one redaction
twice is that redaction once. -/
theorem redactions_compose (h : IsUnion r s u) {es : List (Value × Value)}
    (hes : entriesHaveTextKeys es) :
    (u.redactEntries es).isSome ∧
    (r.redactEntries es).bind s.redactEntries = u.redactEntries es ∧
    (s.redactEntries es).bind r.redactEntries = u.redactEntries es ∧
    (r.redactEntries es).bind r.redactEntries = r.redactEntries es ∧
    ∀ t : Text, s.redactPath (r.redactPath t) = u.redactPath t ∧
      r.redactPath (s.redactPath t) = u.redactPath t ∧
      r.redactPath (r.redactPath t) = r.redactPath t := by
  refine ⟨u.redactEntries_isSome hes, h.bind_redactEntries hes, h.symm.bind_redactEntries hes,
    (IsUnion.self r).bind_redactEntries hes, ?_⟩
  intro t
  exact ⟨h.redactPath_redactPath t, h.symm.redactPath_redactPath t, r.redactPath_redactPath t⟩

def shares : List (Value × Value) :=
  [(.text "Share", .location (.posix ⟨.root, ["home", "alice", "x"]⟩)),
    (.text "more", .list [.text "C:\\alice\\y", .table [(.text "HOST", .tuple [])]])]

theorem redact_shares : ∃ s u, (make (.bool true) []).add (.text "HOST") = some s ∧
    (make (.bool true) ["host"]).add (.text "sHARE") = some u ∧
    ((make (.bool true) ["Share"]).redactEntries shares).bind s.redactEntries =
      u.redactEntries shares := by
  refine ⟨_, _, rfl, rfl, ?_⟩
  have hshare : Text.lower "sHARE" = Text.lower "Share" := by decide +kernel
  have hhost : Text.lower "host" = Text.lower "HOST" := by decide +kernel
  have hr : Told (.bool true) ["Share"] (make (.bool true) ["Share"]) := .made _
  have h := isUnion_of_told hr (.added "HOST" (.made []) rfl) (.added "sHARE" (.made ["host"]) rfl)
    (by simp [hshare, hhost])
  exact (redactions_compose h rfl).2.1

end Redactor

end DriveBridge
