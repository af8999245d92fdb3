import DriveBridge.Log.Logger
import DriveBridge.Proofs.Value.Equality

namespace DriveBridge

namespace Value

mutual

def writtenForm : Value → Value
  | list items => list (writtenItems items)
  | tuple items => list (writtenItems items)
  | table es => table (writtenEntries es)
  | octets bs => text (octets bs).display
  | location p => text p.text
  | client p => text p.text
  | host p => text p.text
  | unit u => text (unit u).display
  | v => v

def writtenItems : List Value → List Value
  | [] => []
  | v :: vs => writtenForm v :: writtenItems vs

def writtenEntries : List (Value × Value) → List (Value × Value)
  | [] => []
  | (k, v) :: es => (k, writtenForm v) :: writtenEntries es

end

end Value

open Value

namespace JsonText

mutual

theorem write?_writtenForm : ∀ v : Value, write? v.writtenForm = write? v
  | .list items => by
    rw [writtenForm, write?, writeItems?_writtenItems items, write?]
  | .tuple items => by
    rw [writtenForm, write?, writeItems?_writtenItems items, write?]
  | .table es => by
    rw [writtenForm, write?, writeMembers?_writtenEntries es, write?]
  | .octets _ | .location _ | .client _ | .host _ | .unit _ => rfl
  | .null | .bool _ | .int _ | .float _ | .text _ => rfl

theorem writeItems?_writtenItems : ∀ items : List Value,
    writeItems? (writtenItems items) = writeItems? items
  | [] => rfl
  | v :: items => by
    rw [writtenItems, writeItems?, write?_writtenForm v, writeItems?_writtenItems items, writeItems?]

theorem writeMembers?_writtenEntries : ∀ es : List (Value × Value),
    writeMembers? (writtenEntries es) = writeMembers? es
  | [] => rfl
  | (k, v) :: es => by
    rw [writtenEntries, writeMembers?, write?_writtenForm v, writeMembers?_writtenEntries es,
      writeMembers?]

end

end JsonText

namespace Entry

variable {k l v w : Value} {es fs context : List (Value × Value)}

theorem writtenEntries_put (k v : Value) (es : List (Value × Value)) :
    writtenEntries (put k v es) = put k v.writtenForm (writtenEntries es) := by
  induction es with
  | nil => rfl
  | cons e es ih =>
    rw [put, writtenEntries, put]
    split
    · rfl
    · rw [writtenEntries, ih]

theorem extend_cons (es context : List (Value × Value)) (k v : Value) :
    extend es ((k, v) :: context) = extend (put k v es) context := rfl

theorem writtenEntries_extend (es context : List (Value × Value)) :
    writtenEntries (extend es context) = extend (writtenEntries es) (writtenEntries context) := by
  induction context generalizing es with
  | nil => rfl
  | cons e context ih => rw [extend_cons, ih, writtenEntries_put, writtenEntries, extend_cons]

def member? (t : Text) : List (Value × Value) → Option Value
  | [] => none
  | (k, v) :: es => if same k (.text t) then some v else member? t es

theorem member?_put (s t : Text) (v : Value) (es : List (Value × Value)) :
    member? t (put (.text s) v es) = if s = t then some v else member? t es := by
  induction es with
  | nil => simp only [put, member?, same_text_iff, Value.text.injEq]
  | cons e es ih =>
    obtain ⟨k, w⟩ := e
    simp only [put]
    split
    · rename_i hk
      rw [same_text_iff] at hk
      simp only [hk, member?, same_text_iff, Value.text.injEq]
      split <;> rfl
    · rename_i hk
      simp only [member?, ih]
      split
      · rename_i ht
        rw [if_neg]
        rintro rfl
        exact hk ht
      · rfl

theorem exists_text_of_isContextKey {k : Value} (h : isContextKey k) : ∃ t, k = .text t := by
  cases k
  case text t => exact ⟨t, rfl⟩
  all_goals cases h

theorem member?_extend_of_not_mem {t : Text} (es : List (Value × Value))
    (hk : context.all (isContextKey ·.1)) (ht : .text t ∉ context.map Prod.fst) :
    member? t (extend es context) = member? t es := by
  induction context generalizing es with
  | nil => rfl
  | cons e context ih =>
    obtain ⟨k, v⟩ := e
    rw [List.all_cons, Bool.and_eq_true] at hk
    rw [List.map_cons, List.mem_cons, not_or] at ht
    obtain ⟨s, rfl⟩ := exists_text_of_isContextKey hk.1
    rw [extend_cons, ih _ hk.2 ht.2, member?_put, if_neg]
    rintro rfl
    exact ht.1 rfl

theorem member?_extend {t : Text} {v : Value} (es : List (Value × Value))
    (hk : context.all (isContextKey ·.1)) (hn : (context.map Prod.fst).Nodup)
    (hm : (.text t, v) ∈ context) : member? t (extend es context) = some v := by
  induction context generalizing es with
  | nil => cases hm
  | cons e context ih =>
    rw [List.all_cons, Bool.and_eq_true] at hk
    rw [List.map_cons, List.nodup_cons] at hn
    cases hm with
    | head => rw [extend_cons, member?_extend_of_not_mem _ hk.2 hn.1, member?_put, if_pos rfl]
    | tail _ hm =>
      obtain ⟨k, w⟩ := e
      rw [extend_cons]
      exact ih _ hk.2 hn.2 hm

theorem eq_of_extend_eq {xs ys : List (Value × Value)} (hx : xs.all (isContextKey ·.1))
    (hy : ys.all (isContextKey ·.1)) (hn : (xs.map Prod.fst).Nodup)
    (hk : xs.map Prod.fst = ys.map Prod.fst) (h : extend es xs = extend fs ys) : xs = ys := by
  induction xs generalizing es fs ys with
  | nil => exact (List.map_eq_nil_iff.mp hk.symm).symm
  | cons x xs ih =>
    cases ys with
    | nil => cases hk
    | cons y ys =>
      obtain ⟨k, v⟩ := x
      obtain ⟨l, w⟩ := y
      obtain ⟨hkl, hrest⟩ := List.cons.inj hk
      obtain rfl : k = l := hkl
      obtain ⟨hkey, hxs⟩ := Bool.and_eq_true_iff.mp hx
      obtain ⟨_, hys⟩ := Bool.and_eq_true_iff.mp hy
      obtain ⟨t, rfl⟩ := exists_text_of_isContextKey hkey
      have hv := member?_extend es hx hn List.mem_cons_self
      rw [h, member?_extend fs hy (hk ▸ hn) List.mem_cons_self] at hv
      rw [Option.some.inj hv, ih hxs hys (List.nodup_cons.mp hn).2 hrest h]

end Entry

end DriveBridge
