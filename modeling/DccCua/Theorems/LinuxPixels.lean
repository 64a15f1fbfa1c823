import DccCua.Core.LinuxPixels
import Mathlib.Logic.Relation

/-! # Pixels are taken of unobscured windows only

The check climbs from the target to the root. What it has found at a level is about the siblings above and the parent; by
induction on the levels it is about all ancestors. -/

namespace DccCua
namespace LinuxPixels

open Checks Relation

/-! ### Obscured targets -/

section
variable (tree : WindowTree)

/-- A window and its parent, which is not none. -/
def ChildOf (a b : Nat) : Prop := ∃ w, tree.window a = some w ∧ w.parent = b ∧ b ≠ 0

/-- The second window is a sibling of the first, above it in the stack. -/
def Above (a id : Nat) : Prop :=
  ∃ w parent lower upper, tree.window a = some w ∧ tree.window w.parent = some parent ∧ parent.children = lower ++ a :: upper ∧ id ∈ upper

/-- A window with its border, from its place in the parent. -/
def outer (w : Window) : Rect :=
  ⟨(tree.origin w.parent).1 + w.x, (tree.origin w.parent).2 + w.y, w.width + 2 * w.borderWidth, w.height + 2 * w.borderWidth⟩

/-- It is viewable, and its shape is not empty. -/
def Shown (w : Window) : Prop := w.mapState = .viewable ∧ w.hasEmptyShape = false

/-- It has pixels of its own, too. -/
def Drawn (w : Window) : Prop := Shown w ∧ w.windowClass = .inputOutput

variable (bounds : Rect)

/-- The bounds lie within the window, which is viewable and unshaped. -/
structure Admits (id : Nat) (w : Window) : Prop where
  viewable : w.mapState = .viewable
  unshaped : w.boundingShaped = false ∧ w.clipShaped = false
  horizontal : (tree.origin id).1 ≤ bounds.left ∧ bounds.right ≤ (tree.origin id).1 + w.width
  vertical : (tree.origin id).2 ≤ bounds.top ∧ bounds.bottom ≤ (tree.origin id).2 + w.height

/-- No window that counts shares a pixel with the bounds above the target or an ancestor, and all ancestors admit them. -/
structure Unobscured (counts : Window → Prop) (target : Nat) : Prop where
  clear : ∀ a, ReflTransGen (ChildOf tree) target a → a ≠ tree.root → ∀ id w, Above tree a id → tree.window id = some w → counts w →
    ∀ p, bounds.Contains p → ¬(outer tree w).Contains p
  within : ∀ a, TransGen (ChildOf tree) target a → a ≠ tree.root → ∃ w, tree.window a = some w ∧ Admits tree bounds a w

end

section Checking
variable {c : Connection} {bounds : Rect}

theorem ask_eq_ok {request : XRequest} {w : Window} : c.ask request = .ok w ↔ c.lost request = none ∧ c.tree.window request.id = some w := by
  unfold Connection.ask
  cases c.lost request with
  | some error => simp
  | none => cases c.tree.window request.id <;> simp

theorem not_contains_of_overlap {other : Rect} (h : overlap bounds other = false) {p : Int × Int} (hp : bounds.Contains p) :
    ¬other.Contains p := by
  obtain ⟨h₁, h₂, h₃, h₄⟩ := hp
  rintro ⟨h₅, h₆, h₇, h₈⟩
  simp only [Rect.right, Rect.bottom] at h₂ h₄ h₆ h₈
  simp only [overlap, Bool.and_eq_false_iff, decide_eq_false_iff_not] at h
  omega

theorem mem_windows {tree : WindowTree} {id : Nat} {w : Window} (h : tree.window id = some w) : (id, w) ∈ tree.windows := by
  obtain ⟨before, after, heq, -⟩ := List.lookup_eq_some_iff.mp h
  rw [heq]
  exact List.mem_append_right before List.mem_cons_self

/-- The place of a window, from its own origin or from that of its parent. -/
theorem bordered_eq_outer {tree : WindowTree} {id : Nat} {w : Window} (h : tree.window id = some w) (hparent : w.parent ≠ 0) :
    bordered (tree.origin id) w = outer tree w := by
  have horigin := tree.origin_child (id, w) (mem_windows h) hparent
  simp only [bordered, outer, horigin, Rect.mk.injEq, and_true]
  omega

theorem checkSibling_clear {id : Nat} {w : Window} (h : checkSibling c bounds id = .ok ()) (hw : c.tree.window id = some w)
    (hdrawn : Drawn w) (hparent : w.parent ≠ 0) {p : Int × Int} (hp : bounds.Contains p) : ¬(outer c.tree w).Contains p := by
  obtain ⟨⟨hviewable, hshape⟩, hclass⟩ := hdrawn
  unfold checkSibling at h
  obtain ⟨attrs, hattrs, h⟩ := bind_eq_ok.mp h
  obtain rfl : attrs = w := Option.some.inj ((ask_eq_ok.mp hattrs).2.symm.trans hw)
  rw [if_neg (by simp [hviewable, hclass])] at h
  obtain ⟨_, -, h⟩ := bind_eq_ok.mp h
  obtain ⟨shape, hasked, h⟩ := bind_eq_ok.mp h
  obtain rfl : shape = attrs := Option.some.inj ((ask_eq_ok.mp hasked).2.symm.trans hw)
  rw [if_neg (by simp [hshape])] at h
  obtain ⟨geometry, hgeometry, h⟩ := bind_eq_ok.mp h
  obtain rfl : geometry = shape := Option.some.inj ((ask_eq_ok.mp hgeometry).2.symm.trans hw)
  obtain ⟨_, -, h⟩ := bind_eq_ok.mp h
  rw [require_eq_ok, Bool.not_eq_true', bordered_eq_outer hw hparent] at h
  exact not_contains_of_overlap h hp

theorem checkSiblings_mem : ∀ {ids : List Nat}, checkSiblings c bounds ids = .ok () → ∀ id ∈ ids, checkSibling c bounds id = .ok ()
  | [], _, _, hmem => absurd hmem List.not_mem_nil
  | id :: rest, h, id', hmem => by
    obtain ⟨⟨⟩, hfirst, hrest⟩ := bind_eq_ok.mp h
    rcases List.mem_cons.mp hmem with rfl | hmem
    · exact hfirst
    · exact checkSiblings_mem hrest id' hmem

theorem checkParent_admits {id : Nat} (h : checkParent c bounds id = .ok ()) :
    ∃ w, c.tree.window id = some w ∧ Admits c.tree bounds id w := by
  unfold checkParent at h
  obtain ⟨_, -, h⟩ := bind_eq_ok.mp h
  obtain ⟨_, -, h⟩ := bind_eq_ok.mp h
  obtain ⟨w, hattributes, h⟩ := bind_eq_ok.mp h
  have hw : c.tree.window id = some w := (ask_eq_ok.mp hattributes).2
  obtain ⟨geometry, hgeometry, h⟩ := bind_eq_ok.mp h
  obtain rfl : geometry = w := Option.some.inj ((ask_eq_ok.mp hgeometry).2.symm.trans hw)
  obtain ⟨_, -, h⟩ := bind_eq_ok.mp h
  obtain ⟨shape, hshape, h⟩ := bind_eq_ok.mp h
  obtain rfl : shape = geometry := Option.some.inj ((ask_eq_ok.mp hshape).2.symm.trans hw)
  simp only [require_eq_ok, Bool.not_eq_true', Bool.or_eq_false_iff, decide_eq_false_iff_not, not_not, Int.not_lt, Int.not_gt_eq] at h
  obtain ⟨⟨⟨⟨⟨⟨hviewable, hbounding⟩, hclip⟩, hleft⟩, htop⟩, hright⟩, hbottom⟩ := h
  exact ⟨shape, hw, hviewable, ⟨hbounding, hclip⟩, ⟨hleft, hright⟩, htop, hbottom⟩

/-- A level that is passed. -/
theorem climb_cases {levels child remaining : Nat} (h : climb c bounds (levels + 1) child remaining = .ok ()) :
    ∃ w parent index, c.tree.window child = some w ∧ w.parent ≠ 0 ∧ c.tree.window w.parent = some parent ∧
      parent.children.idxOf? child = some index ∧ checkSiblings c bounds (parent.children.drop (index + 1)) = .ok () ∧
      (w.parent = c.tree.root ∨ (checkParent c bounds w.parent = .ok () ∧
        climb c bounds levels w.parent (remaining - parent.children.length) = .ok ())) := by
  rw [climb] at h
  obtain ⟨w, hw, h⟩ := bind_eq_ok.mp h
  split at h
  · cases h
  rename_i hparent
  obtain ⟨parent, habove, h⟩ := bind_eq_ok.mp h
  simp only at h
  split at h
  · cases h
  split at h
  · cases h
  rename_i index hindex
  obtain ⟨⟨⟩, hsiblings, h⟩ := bind_eq_ok.mp h
  refine ⟨w, parent, index, (ask_eq_ok.mp hw).2, hparent, (ask_eq_ok.mp habove).2, hindex, hsiblings, ?_⟩
  split at h
  · rename_i hroot
    exact Or.inl hroot
  · obtain ⟨⟨⟩, hchecked, hrest⟩ := bind_eq_ok.mp h
    exact Or.inr ⟨hchecked, hrest⟩

/-- What follows any place of a member follows its first place. -/
theorem mem_drop_idxOf {ids lower upper : List Nat} {a id index : Nat} (hindex : ids.idxOf? a = some index)
    (hids : ids = lower ++ a :: upper) (hid : id ∈ upper) : id ∈ ids.drop (index + 1) := by
  obtain ⟨hlt, -, hfirst⟩ := List.idxOf?_eq_some_iff.mp hindex
  have hle : index ≤ lower.length := by
    refine Nat.not_lt.mp fun hgt => hfirst lower.length hgt ?_
    subst hids
    rw [List.getElem_append_right (Nat.le_refl _)]
    simp
  have hupper : upper = ids.drop (lower.length + 1) := by
    rw [hids, List.drop_append, List.drop_of_length_le (Nat.le_succ _), Nat.add_sub_cancel_left]
    rfl
  rw [hupper] at hid
  exact (List.drop_sublist_drop_left ids (Nat.succ_le_succ hle)).subset hid

end Checking

section Climbing
variable {c : Connection} {bounds : Rect}

/-- The windows above one are children of the same parent. -/
theorem parent_of_above {tree : WindowTree} {a id : Nat} {w v : Window} (hw : tree.window a = some w) (habove : Above tree a id)
    (hv : tree.window id = some v) : v.parent = w.parent := by
  obtain ⟨w', parent, lower, upper, hw', hparent, hchildren, hid⟩ := habove
  obtain rfl : w' = w := Option.some.inj (hw'.symm.trans hw)
  have hchild := tree.child_parent _ (mem_windows hparent) id (by rw [hchildren]; simp [hid])
  rw [show tree.windows.lookup id = some v from hv] at hchild
  exact Option.some.inj hchild

theorem climb_unobscured : ∀ {levels child remaining : Nat}, climb c bounds levels child remaining = .ok () →
    Unobscured c.tree bounds Drawn child
  | 0, _, _, h => by cases h
  | levels + 1, child, remaining, h => by
    obtain ⟨w, parent, index, hw, hparent, habove, hindex, hsiblings, hrest⟩ := climb_cases h
    have hstep : ∀ {b}, ChildOf c.tree child b → b = w.parent := by
      rintro b ⟨w', hw', hb, -⟩
      rw [← hb, Option.some.inj (hw'.symm.trans hw)]
    have hhere : ∀ id v, Above c.tree child id → c.tree.window id = some v → Drawn v → ∀ p, bounds.Contains p → ¬(outer c.tree v).Contains p := by
      intro id v hsibling hv hdrawn p hp
      have hsame := parent_of_above hw hsibling hv
      obtain ⟨w', parent', lower, upper, hw', hparent', hchildren, hid⟩ := hsibling
      obtain rfl : w' = w := Option.some.inj (hw'.symm.trans hw)
      obtain rfl : parent' = parent := Option.some.inj (hparent'.symm.trans habove)
      have hchecked := checkSiblings_mem hsiblings id (mem_drop_idxOf hindex hchildren hid)
      exact checkSibling_clear hchecked hv hdrawn (hsame ▸ hparent) hp
    rcases hrest with hroot | ⟨hchecked, hclimb⟩
    · -- Nothing is above the root.
      have htop : ∀ a, ReflTransGen (ChildOf c.tree) w.parent a → a = c.tree.root := by
        intro a hreach
        rcases ReflTransGen.cases_head hreach with heq | ⟨b, ⟨top, htop, hb, hne⟩, -⟩
        · rw [← heq, hroot]
        · exact absurd (hb ▸ c.tree.root_parent top (hroot ▸ htop)) hne
      refine ⟨fun a hreach hne => ?_, fun a hreach hne => ?_⟩
      · rcases ReflTransGen.cases_head hreach with rfl | ⟨b, hb, hreach⟩
        · exact hhere
        · exact absurd (htop a (hstep hb ▸ hreach)) hne
      · obtain ⟨b, hb, hreach⟩ := TransGen.head'_iff.mp hreach
        exact absurd (htop a (hstep hb ▸ hreach)) hne
    · have hparents := climb_unobscured hclimb
      refine ⟨fun a hreach hne => ?_, fun a hreach hne => ?_⟩
      · rcases ReflTransGen.cases_head hreach with rfl | ⟨b, hb, hreach⟩
        · exact hhere
        · exact hparents.clear a (hstep hb ▸ hreach) hne
      · obtain ⟨b, hb, hreach⟩ := TransGen.head'_iff.mp hreach
        obtain rfl := hstep hb
        rcases ReflTransGen.cases_head hreach with rfl | ⟨b', hb', hreach'⟩
        · exact checkParent_admits hchecked
        · exact hparents.within a (TransGen.head'_iff.mpr ⟨b', hb', hreach'⟩) hne

end Climbing

/-- The check succeeds only for a target that no viewable window with pixels, of non-empty shape, obscures. -/
theorem requireUnobscured_sound (c : Connection) (bounds : Rect) (target : Nat) (h : requireUnobscured c bounds target = .ok ()) :
    Unobscured c.tree bounds Drawn target :=
  climb_unobscured h

/-- A root with two windows at one place; the upper one takes input only. -/
def overlaidTree : WindowTree where
  root := 1
  windows := [
    (1, ⟨0, [2, 3], .viewable, .inputOutput, 0, 0, 640, 480, 0, false, 0, 0, false⟩),
    (2, ⟨1, [], .viewable, .inputOutput, 10, 10, 200, 100, 0, false, 0, 0, false⟩),
    (3, ⟨1, [], .viewable, .inputOnly, 10, 10, 200, 100, 0, false, 0, 0, false⟩)]
  origin := fun id => if id = 1 then (0, 0) else (10, 10)
  none_is_zero := rfl
  root_parent := by rintro w ⟨⟩; rfl
  child_parent := by decide
  children_nodup := by decide
  origin_root := rfl
  origin_child := by decide

def overlaid : Connection := ⟨overlaidTree, fun _ => none, "Window"⟩

theorem requireUnobscured_sound_overlaid : Unobscured overlaidTree ⟨10, 10, 200, 100⟩ Drawn 2 :=
  requireUnobscured_sound overlaid ⟨10, 10, 200, 100⟩ 2 (by decide)

/-- A window that takes input only is not looked at. -/
theorem input_window_passes : requireUnobscured overlaid ⟨10, 10, 200, 100⟩ 2 = .ok () ∧
    ¬Unobscured overlaid.tree ⟨10, 10, 200, 100⟩ Shown 2 := by
  refine ⟨by decide, fun h => ?_⟩
  have hclear := h.clear 2 ReflTransGen.refl (by decide) 3 _ ⟨_, _, [], [3], rfl, rfl, rfl, List.mem_singleton_self 3⟩ rfl ⟨rfl, rfl⟩
  exact hclear (10, 10) (by decide) (by decide)

end LinuxPixels
end DccCua
