import SketchRepair.Proofs.Repair.Isolation
import SketchRepair.Repair.File

/-!
# SketchRepair — what a repaired file and its backup hold

A file is never lost: its backup is there before the passes begin, whatever they do
and whoever they work with, and a file in which nothing was fixed is not written. But
the backup is made from the text that was read, and reading unifies line ends. So the
backup is the file as it was only if the file has no carriage return; of any other
file it keeps everything but the carriage returns.

* `bytes_inj` — texts are told apart by their bytes;
* `ofRun_apply` — a repair is a run of the passes on the text of the file;
* `repairFile?_backs_up` — the backup, and the file after the repair.
-/

namespace SketchRepair

namespace File

theorem bytes_inj {t u : Text} : bytes t = bytes u ↔ t = u := by
  constructor
  · intro h
    have hRead : String.fromUTF8? (bytes t) = String.fromUTF8? (bytes u) := by rw [h]
    rw [bytes, bytes, fromUTF8?_toUTF8, fromUTF8?_toUTF8, Option.some.injEq] at hRead
    exact String.ofList_injective hRead
  · intro h
    rw [h]

end File

variable {passes : List Pass} {team : Collaborators}

/-- Half of a surrogate pair comes from an answer. -/
theorem Collaborators.exists_answer_of_mayGiveHalf {n : Nat} {questions : List Request}
    (h : team.mayGiveHalf n questions = true) :
    ∃ oracle k request text, team.oracle = some oracle ∧ n ≤ k ∧ questions[k]? = some request ∧
      oracle k request = .answer text ∧ Answer.mayHoldHalf text = true := by
  unfold mayGiveHalf at h
  cases hOracle : team.oracle with
  | none =>
    rw [hOracle] at h
    simp at h
  | some oracle =>
    rw [hOracle] at h
    obtain ⟨⟨request, k⟩, hMem, hHalf⟩ := List.any_eq_true.mp h
    obtain ⟨i, hAt⟩ := List.mem_iff_getElem?.mp hMem
    rw [List.getElem?_drop, List.getElem?_zipIdx] at hAt
    obtain ⟨r, hRequest, hPair⟩ := Option.map_eq_some_iff.mp hAt
    obtain ⟨rfl, rfl⟩ := Prod.mk.inj hPair
    dsimp only at hHalf
    rw [Nat.zero_add] at hHalf
    split at hHalf
    · next text hAnswer =>
      exact ⟨oracle, n + i, r, text, rfl, Nat.le_add_right n i, hRequest, hAnswer, hHalf⟩
    · exact absurd hHalf Bool.false_ne_true

/-- A repair is a run of the passes on the text of the file, and what is written when
it is over. -/
theorem FileRepair.ofRun_apply {report : Report} {page : Text} {s s' : Progress}
    (content : ByteArray) (hRun : Pipeline.run passes team page s = (.ok report, s')) :
    FileRepair.ofRun passes team content page s =
      (.ok ⟨report, File.bytes page,
        if 0 < report.totalFixes && !s'.endless then File.bytes report.page else content,
        0 < report.totalFixes && !s'.endless &&
          team.mayGiveHalf s.questions.length s'.questions⟩, s') := by
  rw [FileRepair.ofRun, Run.progress_bind_apply, Run.bind_of_ok _ hRun, Run.progress_bind_apply]
  rfl

/-- **The backup of a file**: a file with any text has a backup, whatever the passes and
the collaborators do. The passes are run on the text with its line ends unified, and that
text is the backup; it is what the file held exactly if the file has no carriage return.
Without a fix, or in a loop that nothing ends, the file stays as it is. With a fix it
holds the page of the report when the run is over, which is in doubt only if an answer
brought in half of a surrogate pair. -/
theorem repairFile?_backs_up (passes : List Pass) (team : Collaborators) (t : Text)
    (s : Progress) :
    ∃ repair s',
      (repairFile? passes team (File.bytes t)).map (· s) = some (.ok repair, s') ∧
      Pipeline.run passes team (Text.unifyLineEnds t) s = (.ok repair.report, s') ∧
      repair.backup = File.bytes (Text.unifyLineEnds t) ∧
      (repair.backup = File.bytes t ↔ '\r' ∉ t) ∧
      (repair.report.totalFixes = 0 →
        repair.content = File.bytes t ∧ repair.report.page = Text.unifyLineEnds t) ∧
      (s'.endless = true → repair.content = File.bytes t) ∧
      (repair.report.totalFixes ≠ 0 → s'.endless = false → repair.inDoubt = false →
        repair.content = File.bytes repair.report.page) ∧
      (repair.inDoubt = true → ∃ oracle k request text, team.oracle = some oracle ∧
        s.questions.length ≤ k ∧ s'.questions[k]? = some request ∧
          oracle k request = .answer text ∧ Answer.mayHoldHalf text = true) := by
  obtain ⟨report, s₁, hRun, -, hThreaded⟩ :=
    Pipeline.run_threaded passes team (Text.unifyLineEnds t) s
  generalize s₁.noting _ = s' at hRun
  refine ⟨⟨report, File.bytes (Text.unifyLineEnds t),
    if 0 < report.totalFixes && !s'.endless then File.bytes report.page else File.bytes t,
    0 < report.totalFixes && !s'.endless && team.mayGiveHalf s.questions.length s'.questions⟩,
    s', ?_, hRun, rfl, ?_, ?_, ?_, ?_, ?_⟩
  · rw [repairFile?, File.text?_bytes, Option.map_some, Option.map_some,
      FileRepair.ofRun_apply (File.bytes t) hRun]
  · rw [File.bytes_inj, Text.unifyLineEnds_eq_self_iff]
  · intro hNone
    exact ⟨by simp [hNone], hThreaded.last_eq_of_sum_eq_zero hNone⟩
  · intro hEndless
    simp [hEndless]
  · intro hSome hOver _
    simp [hOver, Nat.pos_of_ne_zero hSome]
  · intro hDoubt
    exact team.exists_answer_of_mayGiveHalf (Bool.and_eq_true_iff.mp hDoubt).2

/-- A file whose lines end with a carriage return and a line feed has another text in
its backup. -/
example : File.bytes (Text.unifyLineEnds "a\r\nb".toList) ≠ File.bytes "a\r\nb".toList := by
  rw [Ne, File.bytes_inj]
  decide

end SketchRepair
