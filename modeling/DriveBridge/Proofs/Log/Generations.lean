import DriveBridge.Proofs.Disk.Change
import DriveBridge.Proofs.Log.Names

namespace DriveBridge.Rotation

open Location

variable {p : Location} {d e : Disk} {i : Nat}

def depth (keep : Int) : Nat := (max 1 keep).toNat

theorem rotate_depth (p : Location) (keep : Int) (d : Disk) :
    rotate p keep d = rotate p (depth keep) d := by
  have h : ((depth keep : Int) - 1).toNat = (keep - 1).toNat := by
    unfold depth
    omega
  rw [rotate, rotate, h]

theorem exists_depth_eq (keep : Int) : ∃ n, depth keep = n + 1 :=
  ⟨depth keep - 1, by unfold depth; omega⟩

theorem rotate_one (p : Location) (d : Disk) :
    rotate p (1 : Nat) d = match d.rename (generation p 0) (generation p 1) with
      | .error cause => (d, some cause)
      | .ok moved => (moved, none) := rfl

theorem rotate_succ (p : Location) (n : Nat) (d : Disk) :
    rotate p (n + 2 : Nat) d = match d.find (generation p (n + 1)) with
      | .error cause => (d, some cause)
      | .ok none => rotate p (n + 1 : Nat) d
      | .ok (some _) => match d.rename (generation p (n + 1)) (generation p (n + 2)) with
        | .error cause => (d, some cause)
        | .ok moved => rotate p (n + 1 : Nat) moved := by
  have hn : (((n + 2 : Nat) : Int) - 1).toNat = n + 1 := by omega
  have hn' : (((n + 1 : Nat) : Int) - 1).toNat = n := by omega
  simp only [rotate, hn, hn', shift, generation]
  cases d.find (numbered p (n + 1)) with
  | error cause => rfl
  | ok found => cases found with
    | none => rfl
    | some node => cases d.rename (numbered p (n + 1)) (numbered p (n + 2)) with
      | error cause => rfl
      | ok moved => rfl

section

variable (hp : IsName p.fileName)
include hp

theorem treeAt_move (d : Disk) (i j : Nat) :
    (d.move (generation p i).place (generation p (i + 1)).place).treeAt (generation p j).place =
      if j = i + 1 then d.treeAt (generation p i).place
      else if j = i then Disk.noTree
      else d.treeAt (generation p j).place := by
  funext below
  rw [Disk.treeAt, d.at?_move _ (generation p i).place (generation p (i + 1)).place
    (isEnclosing_generation hp i) (isEnclosing_generation hp (i + 1))
    (by rw [generation_isPrefix_iff hp]; omega) (by rw [generation_isPrefix_iff hp]; omega)]
  simp only [generation_isPrefix_append_iff hp, eq_comm (b := j)]
  split
  · rename_i hj
    rw [hj, List.drop_left]
    rfl
  split
  · rfl
  · rfl

theorem at?_move (d : Disk) (i j : Nat) :
    (d.move (generation p i).place (generation p (i + 1)).place).at? (generation p j).place =
      if j = i + 1 then d.at? (generation p i).place
      else if j = i then none
      else d.at? (generation p j).place := by
  simp only [← Disk.treeAt_nil, treeAt_move hp]
  split
  · rfl
  split
  · rfl
  · rfl

theorem rename_generation (h : d.rename (generation p i) (generation p (i + 1)) = .ok e) :
    d.CanRename (generation p i) (generation p (i + 1)) ∧
      e = d.move (generation p i).place (generation p (i + 1)).place := by
  apply Disk.rename_eq_ok h
  intro hsame
  have := generation_injective hp hsame
  omega

theorem at?_of_rename_generation (h : d.rename (generation p i) (generation p (i + 1)) = .ok e)
    {place : Place} (hsource : ¬ (generation p i).place <+: place)
    (htarget : ¬ (generation p (i + 1)).place <+: place) : e.at? place = d.at? place := by
  obtain ⟨hc, rfl⟩ := rename_generation hp h
  rw [d.at?_move _ _ _ (isEnclosing_generation hp i) (isEnclosing_generation hp (i + 1)) hc.apart
    (by rw [generation_isPrefix_iff hp]; omega), if_neg htarget, if_neg hsource]

variable (hd : d.IsSound)
include hd

theorem isSound_rename_generation
    (h : d.rename (generation p i) (generation p (i + 1)) = .ok e) : e.IsSound := by
  obtain ⟨hc, rfl⟩ := rename_generation hp h
  exact hd.move (isEnclosing_generation hp i) (isEnclosing_generation hp (i + 1)) hc.apart
    (by rw [generation_isPrefix_iff hp]; omega)
    (Disk.at?_dropLast_of_locate hd hc.target (isEnclosing_generation hp (i + 1)))

theorem isSound_rotate (keep : Int) : (rotate p keep d).1.IsSound := by
  rw [rotate_depth]
  obtain ⟨n, hn⟩ := exists_depth_eq keep
  rw [hn]
  clear hn
  induction n generalizing d with
  | zero =>
    rw [rotate_one]
    split
    · exact hd
    · exact isSound_rename_generation hp hd (by assumption)
  | succ n ih =>
    rw [rotate_succ]
    split
    · exact hd
    · exact ih hd
    split
    · exact hd
    · exact ih (isSound_rename_generation hp hd (by assumption))

end

end DriveBridge.Rotation
