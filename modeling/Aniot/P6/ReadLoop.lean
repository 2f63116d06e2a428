import Mathlib.Data.List.Infix

/-! The loop of `READ_LOG`, over the content of the file it has opened.

Each turn takes a chunk with `fgets` before it looks at the counter, so a sixth chunk may
be taken and is not printed. What is printed is the first chunks of the content, and,
when every line fits the buffer, its first lines (`read_loop_exact`). -/
namespace Aniot.P6

def newline : UInt8 := 10
def bufferLength : Nat := 255
def numLogsRead : Nat := 5

/-- At most `n` bytes, up to the first newline, and what is left of the file. -/
def takeChunk : Nat → List UInt8 → List UInt8 × List UInt8
  | 0, file => ([], file)
  | _, [] => ([], [])
  | n + 1, x :: file =>
    if x = newline then ([x], file) else (x :: (takeChunk n file).1, (takeChunk n file).2)

/-- `fgets` with a buffer of `size` bytes: nothing at the end of the file, else the chunk it
stores and what is left. -/
def fgets (size : Nat) (file : List UInt8) : Option (List UInt8 × List UInt8) :=
  if file = [] then none else some (takeChunk (size - 1) file)

/-- What `%s` prints of a buffer with a chunk and the NUL that `fgets` puts behind it. -/
def printed (bufferRead : List UInt8) : List UInt8 := (bufferRead ++ [0]).takeWhile (· ≠ 0)

/-- What the loop prints of each chunk, from the turn in which `i` have been printed. -/
def readLogs (file : List UInt8) (i : Nat) : List (List UInt8) :=
  match fgets bufferLength file with
  | none => []
  | some (bufferRead, file) =>
    if i < numLogsRead then printed bufferRead :: readLogs file (i + 1) else []
termination_by numLogsRead - i

/-! ### Chunks and lines -/

theorem takeChunk_append (n : Nat) (file : List UInt8) :
    (takeChunk n file).1 ++ (takeChunk n file).2 = file := by
  induction n generalizing file with
  | zero => simp [takeChunk]
  | succ n ih =>
    cases file with
    | nil => rfl
    | cons x file =>
      rw [takeChunk]
      split
      · rfl
      · rw [List.cons_append, ih]

theorem takeChunk_length (n : Nat) (file : List UInt8) : (takeChunk n file).1.length ≤ n := by
  induction n generalizing file with
  | zero => simp [takeChunk]
  | succ n ih =>
    cases file with
    | nil => exact Nat.zero_le _
    | cons x file =>
      rw [takeChunk]
      split
      · exact Nat.succ_le_succ (Nat.zero_le n)
      · exact Nat.succ_le_succ (ih file)

theorem takeChunk_shorter {n : Nat} {file : List UInt8} (h : file ≠ []) :
    (takeChunk (n + 1) file).2.length < file.length := by
  cases file with
  | nil => exact absurd rfl h
  | cons x file =>
    rw [takeChunk]
    split
    · exact Nat.lt_succ_self _
    · have happend := congrArg List.length (takeChunk_append n file)
      rw [List.length_append] at happend
      simp only [List.length_cons]
      omega

theorem fgets_eq_some {size : Nat} {file chunk rest : List UInt8} :
    fgets size file = some (chunk, rest) ↔ file ≠ [] ∧ takeChunk (size - 1) file = (chunk, rest) := by
  by_cases h : file = [] <;> simp [fgets, h]

theorem fgets_eq_none {size : Nat} {file : List UInt8} : fgets size file = none ↔ file = [] := by
  by_cases h : file = [] <;> simp [fgets, h]

/-- What successive `fgets` with the branch's buffer return. -/
def chunks (file : List UInt8) : List (List UInt8) :=
  match _ : fgets bufferLength file with
  | none => []
  | some (chunk, rest) => chunk :: chunks rest
termination_by file.length
decreasing_by
  next h =>
  obtain ⟨hne, hchunk⟩ := fgets_eq_some.mp h
  have hshorter : (takeChunk (bufferLength - 1) file).2.length < file.length := takeChunk_shorter hne
  rwa [hchunk] at hshorter

theorem chunks_of_none {file : List UInt8} (h : fgets bufferLength file = none) : chunks file = [] := by
  rw [chunks]
  split
  · rfl
  · next hsome => cases h.symm.trans hsome

theorem chunks_of_some {file chunk rest : List UInt8}
    (h : fgets bufferLength file = some (chunk, rest)) : chunks file = chunk :: chunks rest := by
  rw [chunks]
  split
  · next hnone => cases h.symm.trans hnone
  · next hsome =>
    cases h.symm.trans hsome
    rfl

/-- Each line with its newline, and the rest if there is any. -/
def lines : List UInt8 → List (List UInt8)
  | [] => []
  | x :: file =>
    if x = newline then [x] :: lines file
    else
      match lines file with
      | [] => [[x]]
      | line :: more => (x :: line) :: more

theorem chunks_flatten (file : List UInt8) : (chunks file).flatten = file := by
  induction file using chunks.induct with
  | case1 file h =>
    rw [chunks_of_none h, fgets_eq_none.mp h]
    rfl
  | case2 file chunk rest h ih =>
    have happend := takeChunk_append (bufferLength - 1) file
    rw [(fgets_eq_some.mp h).2] at happend
    rw [chunks_of_some h, List.flatten_cons, ih]
    exact happend

theorem chunks_length (file : List UInt8) : ∀ chunk ∈ chunks file, chunk.length < bufferLength := by
  induction file using chunks.induct with
  | case1 file h =>
    rw [chunks_of_none h]
    nofun
  | case2 file chunk rest h ih =>
    have hlength := takeChunk_length (bufferLength - 1) file
    rw [(fgets_eq_some.mp h).2] at hlength
    rw [chunks_of_some h]
    intro chunk' hchunk'
    rcases List.mem_cons.mp hchunk' with rfl | hchunk'
    · exact Nat.lt_succ_of_le hlength
    · exact ih chunk' hchunk'

theorem lines_ne_nil {file : List UInt8} (h : file ≠ []) : lines file ≠ [] := by
  cases file with
  | nil => exact absurd rfl h
  | cons x file =>
    rw [lines]
    split
    · exact List.cons_ne_nil _ _
    · split <;> exact List.cons_ne_nil _ _

/-- A chunk with room for the first line is the first line. -/
theorem takeChunk_line {n : Nat} {file line : List UInt8} {more : List (List UInt8)}
    (hlines : lines file = line :: more) (hfits : line.length ≤ n) :
    (takeChunk n file).1 = line ∧ lines (takeChunk n file).2 = more := by
  induction file generalizing n line more with
  | nil => cases hlines
  | cons x file ih =>
    rw [lines] at hlines
    split at hlines
    · next hx =>
      obtain ⟨rfl, rfl⟩ := List.cons.inj hlines
      cases n with
      | zero => cases hfits
      | succ n => simp [takeChunk, hx]
    · next hx =>
      cases n with
      | zero =>
        have : line ≠ [] := by
          split at hlines <;> (obtain ⟨rfl, -⟩ := List.cons.inj hlines; exact List.cons_ne_nil _ _)
        exact absurd (List.eq_nil_of_length_eq_zero (Nat.le_zero.mp hfits)) this
      | succ n =>
        rw [takeChunk, if_neg hx]
        split at hlines
        · next hend =>
          obtain ⟨rfl, rfl⟩ := List.cons.inj hlines
          cases file with
          | nil => cases n <;> exact ⟨rfl, rfl⟩
          | cons y file => exact absurd hend (lines_ne_nil (List.cons_ne_nil y file))
        · next line' more' hline =>
          obtain ⟨rfl, rfl⟩ := List.cons.inj hlines
          obtain ⟨hchunk, hmore⟩ := ih hline (Nat.le_of_succ_le_succ hfits)
          exact ⟨by rw [hchunk], hmore⟩

/-- When every line has room in the buffer, the chunks are the lines. -/
theorem chunks_eq_lines (file : List UInt8) (hfits : ∀ line ∈ lines file, line.length < bufferLength) :
    chunks file = lines file := by
  induction file using chunks.induct with
  | case1 file h =>
    rw [chunks_of_none h, fgets_eq_none.mp h]
    rfl
  | case2 file chunk rest h ih =>
    obtain ⟨hne, htake⟩ := fgets_eq_some.mp h
    cases hlines : lines file with
    | nil => exact absurd hlines (lines_ne_nil hne)
    | cons line more =>
      rw [hlines] at hfits
      have hfirst : line.length ≤ bufferLength - 1 := Nat.le_pred_of_lt (hfits line List.mem_cons_self)
      obtain ⟨hchunk, hmore⟩ := takeChunk_line hlines hfirst
      rw [htake] at hchunk hmore
      dsimp only at hchunk hmore
      rw [chunks_of_some h, ih, hchunk, hmore]
      rw [hmore]
      exact fun line' hline' => hfits line' (List.mem_cons_of_mem line hline')

/-! ### The loop -/

/-- A chunk without a NUL is printed whole. -/
theorem printed_chunk {chunk : List UInt8} (h : 0 ∉ chunk) : printed chunk = chunk := by
  have hall : ∀ x ∈ chunk, (decide (x ≠ 0)) = true := by
    intro x hx
    rw [decide_eq_true_eq]
    rintro rfl
    exact h hx
  rw [printed, List.takeWhile_append_of_pos hall]
  simp

theorem readLogs_eq (file : List UInt8) (i : Nat) (h : 0 ∉ file) :
    readLogs file i = (chunks file).take (numLogsRead - i) := by
  induction file using chunks.induct generalizing i with
  | case1 file hnone =>
    rw [readLogs, hnone, chunks_of_none hnone]
    exact List.take_nil.symm
  | case2 file chunk rest hsome ih =>
    have happend := takeChunk_append (bufferLength - 1) file
    rw [(fgets_eq_some.mp hsome).2] at happend
    rw [← happend, List.mem_append, not_or] at h
    rw [readLogs, hsome, chunks_of_some hsome]
    dsimp only
    split
    · next hi =>
      rw [printed_chunk h.1, ih (i + 1) h.2]
      rw [show numLogsRead - i = numLogsRead - (i + 1) + 1 by omega, List.take_succ_cons]
    · next hi =>
      -- the chunk has been taken from the file, but is not printed
      rw [show numLogsRead - i = 0 by omega, List.take_zero]

/-- **The loop prints the first chunks of the content, which begin it and have no more bytes
than the buffer has room for; when every line has room they are its first lines.** -/
theorem read_loop_exact (content : List UInt8) (h : 0 ∉ content) :
    readLogs content 0 = (chunks content).take numLogsRead ∧
    (readLogs content 0).flatten <+: content ∧
    (∀ chunk ∈ chunks content, chunk.length < bufferLength) ∧
    ((∀ line ∈ lines content, line.length < bufferLength) →
      readLogs content 0 = (lines content).take numLogsRead) := by
  have hloop := readLogs_eq content 0 h
  refine ⟨hloop, ?_, chunks_length content, fun hfits => ?_⟩
  · rw [hloop]
    have hprefix := (List.take_prefix numLogsRead (chunks content)).flatten
    rwa [chunks_flatten] at hprefix
  · rw [hloop, chunks_eq_lines content hfits, Nat.sub_zero]

/-- Two lines, the last without its newline. -/
theorem read_loop_exact_unterminated :
    let content : List UInt8 := [72, 10, 65]
    readLogs content 0 = (chunks content).take numLogsRead ∧
    (readLogs content 0).flatten <+: content ∧
    (∀ chunk ∈ chunks content, chunk.length < bufferLength) ∧
    ((∀ line ∈ lines content, line.length < bufferLength) →
      readLogs content 0 = (lines content).take numLogsRead) :=
  read_loop_exact [72, 10, 65] (by decide)

end Aniot.P6
