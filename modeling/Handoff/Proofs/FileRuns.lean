import Handoff.Proofs.FileWriting
import Handoff.Site.Generation

/-! Files written one after the other. A run may stop at any of them; one that does not leaves
them all as their rules want them, if each has a place of its own. -/

namespace Handoff.Site
open FileTree

/-- What comes of writing files one after the other, up to the first that cannot be written. -/
inductive Runs : FileTree → List OutputFile → FileTree → Except WriteFailure (List WriteStatus) → Prop
  | done {tree : FileTree} : Runs tree [] tree (.ok [])
  | next {tree middle after : FileTree} {file : OutputFile} {rest : List OutputFile} {status : WriteStatus} {statuses : List WriteStatus}
      (wrote : tree.write file = (middle, .ok status)) (later : Runs middle rest after (.ok statuses)) :
      Runs tree (file :: rest) after (.ok (status :: statuses))
  | later {tree middle after : FileTree} {file : OutputFile} {rest : List OutputFile} {status : WriteStatus} {failure : WriteFailure}
      (wrote : tree.write file = (middle, .ok status)) (later : Runs middle rest after (.error failure)) :
      Runs tree (file :: rest) after (.error failure)
  | stopped {tree after : FileTree} {file : OutputFile} {rest : List OutputFile} {failure : WriteFailure}
      (wrote : tree.write file = (after, .error failure)) : Runs tree (file :: rest) after (.error failure)

variable {tree middle after : FileTree} {files first second : List OutputFile} {result : Except WriteFailure (List WriteStatus)}

theorem runs_writeAll (tree : FileTree) (files : List OutputFile) : Runs tree files (writeAll tree files).1 (writeAll tree files).2 := by
  induction files generalizing tree with
  | nil => exact .done
  | cons file rest ih =>
    rw [writeAll]
    split
    next after failure wrote => exact .stopped wrote
    next middle status wrote =>
      have run := ih middle
      split
      next after statuses later =>
        rw [later] at run
        exact .next wrote run
      next after failure later =>
        rw [later] at run
        exact .later wrote run

namespace Runs

theorem writeAll_eq (run : Runs tree files after result) : writeAll tree files = (after, result) := by
  induction run with
  | done => rfl
  | next wrote _ ih => simp only [writeAll, wrote, ih]
  | later wrote _ ih => simp only [writeAll, wrote, ih]
  | stopped wrote => simp only [writeAll, wrote]

theorem isSound (run : Runs tree files after result) (sound : tree.IsSound) : after.IsSound := by
  induction run with
  | done => exact sound
  | next wrote _ ih => exact ih (grows_write sound wrote).1
  | later wrote _ ih => exact ih (grows_write sound wrote).1
  | stopped wrote => exact (grows_write sound wrote).1

theorem grows (run : Runs tree files after result) (sound : tree.IsSound) : GrowsBy files tree after := by
  have one : ∀ (file : OutputFile) (rest : List OutputFile), [file] ⊆ file :: rest := by simp
  induction run with
  | done => exact .refl _
  | next wrote _ ih =>
    obtain ⟨next, grows⟩ := grows_write sound wrote
    exact (grows.mono (one _ _)).trans ((ih next).mono (List.subset_cons_self _ _))
  | later wrote _ ih =>
    obtain ⟨next, grows⟩ := grows_write sound wrote
    exact (grows.mono (one _ _)).trans ((ih next).mono (List.subset_cons_self _ _))
  | stopped wrote => exact (grows_write sound wrote).2.mono (one _ _)

theorem failed {failure : WriteFailure} (run : Runs tree files after (.error failure)) (sound : tree.IsSound) :
    ∃ file ∈ files, failure = ⟨file.path⟩ := by
  induction files generalizing tree with
  | nil => cases run
  | cons file rest ih =>
    cases run with
    | later wrote later =>
      obtain ⟨other, listed, same⟩ := ih later (grows_write sound wrote).1
      exact ⟨other, List.mem_cons_of_mem _ listed, same⟩
    | stopped wrote => exact ⟨file, List.mem_cons_self, failure_write sound wrote⟩

/-- Files in different places are all there once they were written. -/
theorem settled {statuses : List WriteStatus} (run : Runs tree files after (.ok statuses)) (sound : tree.IsSound)
    (apart : files.Pairwise fun first second => tree.destination first.path ≠ tree.destination second.path) :
    ∀ file ∈ files, after.IsSettled file := by
  induction files generalizing tree statuses with
  | nil => exact List.forall_mem_nil _
  | cons file rest ih =>
    cases run with
    | next wrote later =>
      obtain ⟨alone, others⟩ := List.pairwise_cons.mp apart
      obtain ⟨next, grows⟩ := grows_write sound wrote
      have same : ∀ path, FileTree.destination _ path = tree.destination path := Grows.destination grows
      refine List.forall_mem_cons.mpr ⟨?_, ih later next (by simpa only [same] using others)⟩
      apply (settled_write sound wrote).grow (later.grows next)
      intro other listed
      rw [same, same]
      exact (alone other listed).symm

theorem length {statuses : List WriteStatus} (run : Runs tree files after (.ok statuses)) : statuses.length = files.length := by
  induction files generalizing tree statuses with
  | nil =>
    cases run
    rfl
  | cons file rest ih =>
    cases run with
    | next wrote later => exact congrArg (· + 1) (ih later)

theorem one {file : OutputFile} {statuses : List WriteStatus} (run : Runs tree [file] after (.ok statuses)) :
    ∃ status, tree.write file = (after, .ok status) := by
  cases run with
  | next wrote later =>
    cases later
    exact ⟨_, wrote⟩

theorem split_ok {statuses : List WriteStatus} (run : Runs tree (first ++ second) after (.ok statuses)) :
    ∃ middle earlier later, Runs tree first middle (.ok earlier) ∧ Runs middle second after (.ok later) := by
  induction first generalizing tree statuses with
  | nil => exact ⟨tree, [], statuses, .done, run⟩
  | cons file rest ih =>
    cases run with
    | next wrote later =>
      obtain ⟨middle, earlier, others, before, behind⟩ := ih later
      exact ⟨middle, _, others, .next wrote before, behind⟩

theorem split_error {failure : WriteFailure} (run : Runs tree (first ++ second) after (.error failure)) :
    Runs tree first after (.error failure) ∨
      ∃ middle earlier, Runs tree first middle (.ok earlier) ∧ Runs middle second after (.error failure) := by
  induction first generalizing tree with
  | nil => exact .inr ⟨tree, [], .done, run⟩
  | cons file rest ih =>
    cases run with
    | later wrote later =>
      rcases ih later with stopped | ⟨middle, earlier, before, behind⟩
      · exact .inl (.later wrote stopped)
      · exact .inr ⟨middle, _, .next wrote before, behind⟩
    | stopped wrote => exact .inl (.stopped wrote)

end Runs

theorem runs_of_settled (settled : ∀ file ∈ files, tree.IsSettled file) :
    Runs tree files tree (.ok (files.map fun file => keptStatus file.overwrite)) := by
  induction files with
  | nil => exact .done
  | cons file rest ih =>
    obtain ⟨here, later⟩ := List.forall_mem_cons.mp settled
    exact .next (write_of_settled here) (ih later)

end Handoff.Site
