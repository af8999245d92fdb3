import Mathlib.Data.List.Nodup
import DriveBridge.Proofs.Log.WrittenForm

namespace DriveBridge

open Value

namespace Entry

variable {es context : List (Value × Value)} {kept names : List Text}

theorem mem_put {e : Value × Value} {name : Text} {v : Value} (h : e ∈ put (.text name) v es) :
    e = (.text name, v) ∨ e ∈ es := by
  induction es with
  | nil => exact .inl (List.mem_singleton.mp h)
  | cons f es ih =>
    obtain ⟨k, w⟩ := f
    rw [put] at h
    split at h
    · rename_i hk
      obtain rfl := same_text_iff.mp hk
      rcases List.mem_cons.mp h with rfl | h
      · exact .inl rfl
      · exact .inr (List.mem_cons_of_mem _ h)
    · rcases List.mem_cons.mp h with rfl | h
      · exact .inr List.mem_cons_self
      · exact (ih h).imp_right (List.mem_cons_of_mem _)

theorem mem_extend {e : Value × Value} (hc : context.all (isContextKey ·.1))
    (h : e ∈ extend es context) : e ∈ es ∨ e ∈ context := by
  induction context generalizing es with
  | nil => exact .inl h
  | cons c context ih =>
    obtain ⟨k, v⟩ := c
    rw [List.all_cons, Bool.and_eq_true] at hc
    obtain ⟨name, rfl⟩ := exists_text_of_isContextKey hc.1
    rw [extend_cons] at h
    rcases ih hc.2 h with h | h
    · rcases mem_put h with rfl | h
      · exact .inr List.mem_cons_self
      · exact .inl h
    · exact .inr (List.mem_cons_of_mem _ h)

theorem exists_of_keys_eq_cons {e : Value × Value} (h : (e :: es).map Prod.fst = kept.map .text) :
    ∃ name rest, kept = name :: rest ∧ e.1 = .text name ∧ es.map Prod.fst = rest.map .text := by
  cases kept with
  | nil => cases h
  | cons name rest => exact ⟨name, rest, rfl, List.cons.inj h⟩

theorem keys_put (name : Text) (v : Value) (hes : es.map Prod.fst = kept.map .text) :
    (put (.text name) v es).map Prod.fst =
      (if name ∈ kept then kept else kept ++ [name]).map .text := by
  induction es generalizing kept with
  | nil =>
    obtain rfl : kept = [] := List.map_eq_nil_iff.mp hes.symm
    rfl
  | cons e es ih =>
    obtain ⟨first, kept, rfl, hkey, hrest⟩ := exists_of_keys_eq_cons hes
    have ih := ih hrest
    rw [put, hkey]
    by_cases hf : first = name
    · simp [hf, same_text_iff, hrest]
    · rw [if_neg (by simp [same_text_iff, hf]), List.map_cons, ih]
      simp only [List.mem_cons, Ne.symm hf, false_or]
      split <;> rfl

theorem keys_extend (hes : es.map Prod.fst = kept.map .text)
    (hc : context.map Prod.fst = names.map .text) (hn : names.Nodup) :
    (extend es context).map Prod.fst = (kept ++ names.filter (· ∉ kept)).map .text := by
  induction context generalizing es kept names with
  | nil =>
    obtain rfl : names = [] := List.map_eq_nil_iff.mp hc.symm
    simpa [extend] using hes
  | cons c context ih =>
    obtain ⟨k, v⟩ := c
    obtain ⟨name, names, rfl, hkey, hrest⟩ := exists_of_keys_eq_cons hc
    obtain rfl : k = .text name := hkey
    rw [List.nodup_cons] at hn
    rw [extend_cons, ih (keys_put name v hes) hrest hn.2]
    by_cases hname : name ∈ kept
    · simp [hname]
    · have hfilter : names.filter (· ∉ kept ++ [name]) = names.filter (· ∉ kept) := by
        apply List.filter_congr
        intro other hother
        have hne : other ≠ name := by
          rintro rfl
          exact hn.1 hother
        simp [hne]
      rw [if_neg hname, hfilter]
      simp [hname]

theorem mem_of_member? {name : Text} {v : Value} (h : member? name es = some v) :
    (.text name, v) ∈ es := by
  induction es with
  | nil => cases h
  | cons e es ih =>
    obtain ⟨k, w⟩ := e
    rw [member?] at h
    split at h
    · rename_i hk
      obtain rfl := same_text_iff.mp hk
      obtain rfl := Option.some.inj h
      exact List.mem_cons_self
    · exact List.mem_cons_of_mem _ (ih h)

theorem not_mem_keys_of_reserved {name : Text} (hc : context.all (isContextKey ·.1))
    (hname : name ∈ reserved) : .text name ∉ context.map Prod.fst := by
  intro h
  obtain ⟨e, he, hkey⟩ := List.mem_map.mp h
  have hcontext := List.all_eq_true.mp hc e he
  rw [hkey, isContextKey, decide_eq_true_eq] at hcontext
  exact hcontext hname

def baseNames : List Text :=
  ["timestamp", "iso_timestamp", "level", "component", "session_id", "session_time", "message"]

def order (names : List Text) : List Text := baseNames ++ names.filter (· ∉ baseNames)

theorem nodup_order (h : names.Nodup) : (order names).Nodup := by
  rw [order, List.nodup_append]
  refine ⟨by decide, h.filter _, ?_⟩
  rintro name hbase other hother rfl
  simp [hbase] at hother

theorem exists_names (h : context.all (isContextKey ·.1)) :
    ∃ names : List Text, context.map Prod.fst = names.map .text := by
  induction context with
  | nil => exact ⟨[], rfl⟩
  | cons e context ih =>
    rw [List.all_cons, Bool.and_eq_true] at h
    obtain ⟨name, hname⟩ := exists_text_of_isContextKey h.1
    obtain ⟨names, hnames⟩ := ih h.2
    exact ⟨name :: names, by simp [hname, hnames]⟩

variable {level : Level} {component session : Text} {started now : Int} {message : Value}

theorem member?_base {e : Value × Value}
    (he : e ∈ base level component session started now message) :
    ∃ name, e.1 = .text name ∧
      member? name (base level component session started now message) = some e.2 := by
  simp only [base, List.mem_cons, List.not_mem_nil, or_false] at he
  rcases he with rfl | rfl | rfl | rfl | rfl | rfl | rfl
  all_goals exact ⟨_, rfl, rfl⟩

end Entry

end DriveBridge
