import Mathlib.Data.String.Basic
import TuningAdvisor.Profile.Store
import TuningAdvisor.Proofs.Ingestion
/-!
# Directories, file by file: `load_profiles_from_dir`

A directory is listed name by name, **each name once and in increasing order** (`FileTree.pairwise_list`), the paths of
its files stand in that order too, and each of them leads to what the directory has under the name
(`FileTree.walk_below`). What is made of the files one after the other is made of all of them, or fails as the first one
does that fails.
-/

namespace TuningAdvisor

/-! ## One after the other -/

section
variable {ε α β : Type} {f : α → Except ε β}

theorem mapM_eq_ok_iff {l : List α} {bs : List β} :
    l.mapM f = .ok bs ↔ List.Forall₂ (fun a b => f a = .ok b) l bs := by
  induction l generalizing bs with
  | nil =>
    constructor
    · intro h
      cases h
      exact .nil
    · rintro ⟨⟩
      rfl
  | cons a l ih =>
    rw [List.mapM_cons]
    constructor
    · intro h
      obtain ⟨b, hb, h⟩ := of_except_bind_ok h
      obtain ⟨rest, hrest, h⟩ := of_except_bind_ok h
      cases h
      exact .cons hb (ih.1 hrest)
    · rintro (_ | ⟨hb, hrest⟩)
      rw [hb, ih.2 hrest]
      rfl

/-- The first failure is the failure of all. -/
theorem mapM_append_cons_of_error {before : List α} {a : α} {e : ε} (hbefore : ∀ x ∈ before, ∃ b, f x = .ok b)
    (ha : f a = .error e) (after : List α) : (before ++ a :: after).mapM f = .error e := by
  induction before with
  | nil =>
    rw [List.nil_append, List.mapM_cons, ha]
    rfl
  | cons x before ih =>
    obtain ⟨⟨b, hb⟩, hbefore⟩ := List.forall_mem_cons.1 hbefore
    rw [List.cons_append, List.mapM_cons, hb, ih hbefore]
    rfl

end

/-! ## In increasing order -/

section
variable {α : Type} [LinearOrder α] [BEq α] [LawfulBEq α]

theorem pairwise_lt_eraseRepsBy_loop (a : α) (l kept : List α) (hl : (a :: l).Pairwise (· ≤ ·))
    (hkept : (kept.reverse ++ [a]).Pairwise (· < ·)) :
    (List.eraseRepsBy.loop (· == ·) a l kept).Pairwise (· < ·) := by
  induction l generalizing a kept with
  | nil => simpa [List.eraseRepsBy.loop] using hkept
  | cons b l ih =>
    obtain ⟨hle, htail⟩ := List.pairwise_cons.1 hl
    unfold List.eraseRepsBy.loop
    split
    · exact ih a kept (hl.sublist ((List.sublist_cons_self b l).cons_cons a)) hkept
    · rename_i hne
      have hlt : a < b := lt_of_le_of_ne (hle b List.mem_cons_self) (by simpa using hne)
      refine ih b (a :: kept) htail ?_
      rw [List.reverse_cons, List.pairwise_append]
      refine ⟨hkept, List.pairwise_singleton _ _, fun c hc d hd => ?_⟩
      rw [List.mem_singleton.1 hd]
      rcases List.mem_append.1 hc with hc | hc
      · exact ((List.pairwise_append.1 hkept).2.2 c hc a List.mem_cons_self).trans hlt
      · rwa [List.mem_singleton.1 hc]

/-- Without its repetitions, a sorted list is strictly increasing. -/
theorem pairwise_lt_eraseReps {l : List α} (h : l.Pairwise (· ≤ ·)) : l.eraseReps.Pairwise (· < ·) := by
  cases l with
  | nil => exact List.Pairwise.nil
  | cons a l => exact pairwise_lt_eraseRepsBy_loop a l [] h (List.pairwise_singleton _ _)

end

theorem FileTree.pairwise_list {t : FileTree} {path : String} {names : List String} (h : t.list path = .ok names) :
    names.Pairwise (· < ·) := by
  unfold list at h
  obtain ⟨spot, -, h⟩ := of_except_bind_ok h
  cases spot with
  | file text => cases h
  | unreadable why => cases h
  | directory route =>
    cases h
    refine pairwise_lt_eraseReps ?_
    have hsorted (l : List String) :
        (l.mergeSort fun a b => decide (a ≤ b)).Pairwise fun a b => decide (a ≤ b) = true :=
      List.pairwise_mergeSort (fun a b c => by simpa using le_trans) (fun a b => by simpa using le_total a b) l
    simpa using hsorted _

/-! ## Paths into a directory -/

section
open String (ofList utf8Len)

/-- The walk of `splitOn` over a text, with the part that is being read between the others and the rest. -/
theorem splitOnAux_slash (l m r : List Char) (parts : List String) :
    (ofList (l ++ m ++ r)).splitOnAux "/" ⟨utf8Len l⟩ ⟨utf8Len l + utf8Len m⟩ 0 parts =
      parts.reverse ++ (List.splitOnPPrepend (· == '/') r m.reverse).map ofList := by
  induction r generalizing l m parts with
  | nil =>
    have hend : String.Pos.Raw.atEnd (ofList (l ++ m ++ [])) ⟨utf8Len l + utf8Len m⟩ = true := by
      simpa using (String.atEnd_of_valid (l ++ m) []).2 rfl
    rw [String.splitOnAux, if_pos hend]
    simpa using String.extract_of_valid l m []
  | cons c r ih =>
    have hmore : ¬String.Pos.Raw.atEnd (ofList (l ++ m ++ c :: r)) ⟨utf8Len l + utf8Len m⟩ = true := by
      simpa using (String.atEnd_of_valid (l ++ m) (c :: r)).not.2 (by simp)
    have hget : String.Pos.Raw.get (ofList (l ++ m ++ c :: r)) ⟨utf8Len l + utf8Len m⟩ = c := by
      simpa using String.get_of_valid (l ++ m) (c :: r)
    have hnext : String.Pos.Raw.next (ofList (l ++ m ++ c :: r)) ⟨utf8Len l + utf8Len m⟩ =
        ⟨utf8Len l + utf8Len m + c.utf8Size⟩ := by
      simpa using String.next_of_valid (l ++ m) c r
    have hslash : String.Pos.Raw.get "/" 0 = '/' := rfl
    rw [String.splitOnAux, if_neg hmore, hget, hslash, List.splitOnPPrepend_cons_eq_if]
    by_cases hc : c = '/'
    · subst hc
      have hone : String.Pos.Raw.atEnd "/" (String.Pos.Raw.next "/" 0) = true := rfl
      have hback : String.Pos.Raw.unoffsetBy ⟨utf8Len l + utf8Len m + '/'.utf8Size⟩ (String.Pos.Raw.next "/" 0) =
          ⟨utf8Len l + utf8Len m⟩ := rfl
      rw [if_pos BEq.rfl, if_pos BEq.rfl]
      dsimp only
      rw [hnext, if_pos hone, hback, String.extract_of_valid]
      simpa [Nat.add_assoc, -String.ofList_append] using ih (l ++ m ++ ['/']) [] (ofList m :: parts)
    · have hne : ¬(c == '/') = true := by simpa using hc
      have hhere (p : String.Pos.Raw) : p.unoffsetBy 0 = p := rfl
      rw [if_neg hne, if_neg hne, hhere, hnext]
      simpa [Nat.add_assoc, -String.ofList_append] using ih l (m ++ [c]) parts

theorem splitOn_slash (s : String) : s.splitOn "/" = (s.toList.splitOn '/').map ofList := by
  have hall := splitOnAux_slash [] [] s.toList []
  rw [List.append_nil, List.nil_append, String.ofList_toList] at hall
  exact hall

end

theorem splitOn_below (path : String) {name : String} (h : '/' ∉ name.toList) :
    (path ++ "/" ++ name).splitOn "/" = path.splitOn "/" ++ [name] := by
  have hname : name.toList.splitOn '/' = [name.toList] := List.splitOn_eq_singleton h
  have hsplit : (path ++ "/" ++ name).toList.splitOn '/' = path.toList.splitOn '/' ++ name.toList.splitOn '/' := by
    rw [String.toList_append, String.toList_append, List.append_assoc]
    exact List.splitOn_append_cons_self (a := '/') _ _
  rw [splitOn_slash, splitOn_slash, hsplit, hname]
  simp

namespace FileTree

/-- Behind the path of a directory, a name leads to what the directory has under it. -/
theorem walk_below {t : FileTree} {path name : String} {route : Route} (hpath : t.walk path = .ok (.directory route))
    (hname : '/' ∉ name.toList) (hhere : Route.isHere name = false) (habove : name ≠ "..") :
    t.walk (path ++ "/" ++ name) = t.spot (route ++ [name]) := by
  unfold walk at hpath ⊢
  split at hpath
  · cases hpath
  · rename_i hne
    have hstart : Route.start (path ++ "/" ++ name) = Route.start path := by
      unfold Route.start
      simp only [String.startsWith_string_iff, String.toList_append]
      cases hchars : path.toList with
      | nil => exact absurd (String.toList_eq_nil_iff.1 hchars) hne
      | cons c rest => simp
    rw [if_neg (by simp), splitOn_below path hname, hstart, List.foldlM_append, hpath]
    show (t.step (.directory route) name >>= pure) = _
    rw [bind_pure, step, if_neg (by simp [hhere]), if_neg habove]

end FileTree

namespace ProfileSource

theorem join_lt_join (path : String) {a b : String} (h : a < b) : join path a < join path b := by
  have happend (s : String) : s ++ a < s ++ b := by
    rw [String.lt_iff_toList_lt, String.toList_append, String.toList_append]
    exact List.append_left_lt (String.lt_iff_toList_lt.1 h)
  unfold join
  split
  · exact happend _
  · exact happend _

/-- The paths of the profile files among the names in a directory. -/
def profilePaths (path : String) (names : List String) : List String := (names.filter isProfileFile).map (join path)

theorem pairwise_profilePaths {files : FileTree} {path : String} {names : List String}
    (h : files.list path = .ok names) : (profilePaths path names).Pairwise (· < ·) :=
  List.Pairwise.map _ (fun _ _ => join_lt_join path) ((FileTree.pairwise_list h).filter _)

end ProfileSource

end TuningAdvisor
