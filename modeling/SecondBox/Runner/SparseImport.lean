/-
  The target of a Workspace relocation: `relocationImport` and
  `writeSparseRelocationChunk`.

  A chunk is cut at the file's block boundaries; runs of blocks that are all zero
  are skipped and the others written.  `read_writeSparseRelocationChunk`: on
  ground that reads zero this is as good as writing the chunk.  So an import
  that completes has published the bytes it was given (`Holds.complete`).
-/
import SecondBox.Runner.Frames
import SecondBox.Base.SparseFile

namespace SecondBox.Runner

open SparseFile (read write truncate)

/-- The bytes of a block. -/
def relocationSparseBlockBytes : ℕ := 4096

/-- `allZero` -/
def allZero (data : Bytes) : Bool := data.all (· == 0)

namespace SparseImport

/-- An open file with its position. -/
structure OpenFile where
  content : Bytes
  position : ℕ
deriving DecidableEq

/-- Segments that are not flushed yet: where they begin, and whether they are all zero. -/
structure Run where
  start : ℕ
  zero : Bool
deriving DecidableEq

/-- `data[start:stop]` -/
def slice (data : Bytes) (start stop : ℕ) : Bytes := (data.take stop).drop start

/-- `flush`, with the run that `runStart`, `runZero` and `haveRun` describe. -/
def flush (data : Bytes) (file : OpenFile) (run : Option Run) (stop : ℕ) : OpenFile :=
  match run with
  | none => file
  | some run =>
    if stop = run.start then file
    else if run.zero then { file with position := file.position + (stop - run.start) }
    else
      { content := write 0 file.content file.position (slice data run.start stop)
        position := file.position + (stop - run.start) }

/-- The end of the segment that begins at `position`: a block boundary of the file, or the end of the data. -/
def segmentEnd (offset : ℕ) (data : Bytes) (position : ℕ) : ℕ :=
  position + min (data.length - position)
    (relocationSparseBlockBytes - (offset + position) % relocationSparseBlockBytes)

/-- The loop of `writeSparseRelocationChunk`; a segment has a byte at least, so as many
    rounds as there are bytes are enough. -/
def writeRuns (offset : ℕ) (data : Bytes) : ℕ → ℕ → Option Run → OpenFile → OpenFile
  | 0, _, run, file => flush data file run data.length
  | fuel + 1, position, run, file =>
    if position < data.length then
      let stop := segmentEnd offset data position
      let zero := allZero (slice data position stop)
      match run with
      | none => writeRuns offset data fuel stop (some ⟨position, zero⟩) file
      | some r =>
        if zero ≠ r.zero then
          writeRuns offset data fuel stop (some ⟨position, zero⟩) (flush data file run position)
        else writeRuns offset data fuel stop run file
    else flush data file run data.length

end SparseImport

open SparseImport

/-- `writeSparseRelocationChunk` -/
def writeSparseRelocationChunk (content : Bytes) (offset : ℕ) (data : Bytes) : Bytes :=
  (writeRuns offset data data.length 0 none ⟨content, offset⟩).content

variable {data : Bytes}

namespace SparseImport

variable {position : ℕ}

theorem position_lt_segmentEnd (offset : ℕ) (h : position < data.length) :
    position < segmentEnd offset data position := by
  have hmod : (offset + position) % relocationSparseBlockBytes < relocationSparseBlockBytes :=
    Nat.mod_lt _ (by decide)
  rw [segmentEnd]
  omega

theorem segmentEnd_le (offset : ℕ) (h : position < data.length) :
    segmentEnd offset data position ≤ data.length := by
  rw [segmentEnd]
  omega

theorem length_slice {start stop : ℕ} (h : stop ≤ data.length) :
    (slice data start stop).length = stop - start := by
  rw [slice, List.length_drop, List.length_take, Nat.min_eq_left h]

theorem read_slice {start stop k : ℕ} (h : start + k < stop) :
    read 0 (slice data start stop) k = read 0 data (start + k) := by
  rw [slice, SparseFile.read_drop, SparseFile.read_take h]

theorem read_of_allZero (h : allZero data = true) (k : ℕ) : read 0 data k = 0 := by
  by_cases hk : k < data.length
  · rw [SparseFile.read_eq_of_lt hk]
    exact eq_of_beq (List.all_eq_true.1 h _ (List.getElem_mem hk))
  · exact SparseFile.read_of_length_le (by omega)

/-- The data up to `start` are in the file, which is positioned after them. -/
structure Written (content₀ : Bytes) (offset : ℕ) (data : Bytes) (start : ℕ) (file : OpenFile) :
    Prop where
  position : file.position = offset + start
  reads : ∀ i, read 0 file.content i =
    if offset ≤ i ∧ i < offset + start then read 0 data (i - offset) else read 0 content₀ i

section
variable {content₀ : Bytes} {offset : ℕ} {data : Bytes} {file : OpenFile}

/-- A run covers the data from its start on, and reads zero if it says so. -/
def Covers (data : Bytes) (run : Run) (stop : ℕ) : Prop :=
  run.start ≤ stop ∧ (run.zero = true → ∀ k, run.start ≤ k → k < stop → read 0 data k = 0)

theorem Written.flush (hfresh : ∀ i, offset ≤ i → read 0 content₀ i = 0) {run : Run} {stop : ℕ}
    (h : Written content₀ offset data run.start file) (hcovers : Covers data run stop)
    (hstop : stop ≤ data.length) :
    Written content₀ offset data stop (flush data file (some run) stop) := by
  obtain ⟨hle, hzero⟩ := hcovers
  rw [SparseImport.flush]
  split
  next heq => rwa [heq]
  split
  next hz =>
    refine ⟨?_, fun i => ?_⟩
    · show file.position + (stop - run.start) = offset + stop
      rw [h.position]
      omega
    · rw [h.reads i]
      by_cases hi : offset ≤ i ∧ i < offset + run.start
      · rw [if_pos hi, if_pos (by omega)]
      · rw [if_neg hi]
        split
        next hnew => rw [hfresh i hnew.1, hzero hz (i - offset) (by omega) (by omega)]
        · rfl
  · refine ⟨?_, fun i => ?_⟩
    · show file.position + (stop - run.start) = offset + stop
      rw [h.position]
      omega
    · rw [SparseFile.read_write, length_slice hstop, h.position, h.reads i]
      by_cases hnew : offset + run.start ≤ i ∧ i < offset + stop
      · rw [if_pos (by omega), if_pos (by omega), read_slice (by omega)]
        congr 1
        omega
      · rw [if_neg (by omega)]
        split
        · rw [if_pos (by omega)]
        · rw [if_neg (by omega)]

theorem covers_segment (offset : ℕ) (hposition : position < data.length) :
    Covers data ⟨position, allZero (slice data position (segmentEnd offset data position))⟩
      (segmentEnd offset data position) := by
  refine ⟨Nat.le_of_lt (position_lt_segmentEnd offset hposition), fun hz k hk hlt => ?_⟩
  have hk : position ≤ k := hk
  have hread := read_of_allZero hz (k - position)
  rw [read_slice (by omega), Nat.add_sub_cancel' hk] at hread
  exact hread

theorem Covers.join {run : Run} (h : Covers data run position) (hposition : position < data.length)
    (hsame : allZero (slice data position (segmentEnd offset data position)) = run.zero) :
    Covers data run (segmentEnd offset data position) := by
  obtain ⟨hle, hzero⟩ := h
  obtain ⟨hseg, hsegzero⟩ := covers_segment offset hposition
  refine ⟨Nat.le_trans hle hseg, fun hz k hk hlt => ?_⟩
  by_cases hkp : k < position
  · exact hzero hz k hk hkp
  · exact hsegzero (hsame.trans hz) k (Nat.not_lt.1 hkp) hlt

/-- Where the loop stands: before the first segment, or with a run that covers the segments since what is written. -/
def Stands (content₀ : Bytes) (offset : ℕ) (data : Bytes) (position : ℕ) (run : Option Run)
    (file : OpenFile) : Prop :=
  match run with
  | none => position = 0 ∧ Written content₀ offset data 0 file
  | some r => Written content₀ offset data r.start file ∧ Covers data r position

theorem Stands.finish (hfresh : ∀ i, offset ≤ i → read 0 content₀ i = 0) {run : Option Run}
    (h : Stands content₀ offset data data.length run file) :
    Written content₀ offset data data.length (flush data file run data.length) := by
  cases run with
  | none =>
    obtain ⟨hzero, hw⟩ := h
    rw [hzero]
    exact hw
  | some r => exact h.1.flush hfresh h.2 (Nat.le_refl _)

theorem Stands.writeRuns (hfresh : ∀ i, offset ≤ i → read 0 content₀ i = 0) {fuel : ℕ}
    {run : Option Run} (h : Stands content₀ offset data position run file)
    (hposition : position ≤ data.length) (hfuel : data.length ≤ position + fuel) :
    Written content₀ offset data data.length (writeRuns offset data fuel position run file) := by
  induction fuel generalizing position run file with
  | zero =>
    obtain rfl : position = data.length := by omega
    exact h.finish hfresh
  | succ fuel ih =>
    rw [SparseImport.writeRuns.eq_def]
    dsimp only
    split
    next hlt =>
      have hstop := position_lt_segmentEnd offset hlt
      have hstople := segmentEnd_le offset hlt
      have hsegment := covers_segment offset hlt
      cases run with
      | none =>
        obtain ⟨rfl, hw⟩ := h
        exact ih ⟨hw, hsegment⟩ hstople (by omega)
      | some r =>
        obtain ⟨hw, hcovers⟩ := h
        dsimp only
        split
        · exact ih ⟨hw.flush hfresh hcovers hposition, hsegment⟩ hstople (by omega)
        next hsame => exact ih ⟨hw, hcovers.join hlt (not_not.1 hsame)⟩ hstople (by omega)
    next hend =>
      obtain rfl : position = data.length := by omega
      exact h.finish hfresh

end

end SparseImport

/-- On ground that reads zero, skipping the zero blocks is as good as writing the chunk. -/
theorem read_writeSparseRelocationChunk {content : Bytes} {offset : ℕ} (data : Bytes)
    (hfresh : ∀ i, offset ≤ i → read 0 content i = 0) (i : ℕ) :
    read 0 (writeSparseRelocationChunk content offset data) i =
      if offset ≤ i ∧ i < offset + data.length then
        read 0 data (i - offset) else read 0 content i := by
  have hstart : Written content offset data 0 ⟨content, offset⟩ := by
    refine ⟨rfl, fun j => ?_⟩
    rw [if_neg (by omega)]
  have hstands : Stands content offset data 0 none ⟨content, offset⟩ := ⟨rfl, hstart⟩
  exact (hstands.writeRuns hfresh (Nat.zero_le _) (by omega)).reads i

/-! ## `relocationImport` -/

/-- `relocationImport` while its file is open; `hashed` is what its hash has been given. -/
structure RelocationImport where
  capacityBytes : ℕ
  content : Bytes
  written : ℕ := 0
  hashed : Bytes := []
deriving DecidableEq

/-- The image an import has published, with its receipt. -/
structure ImportedImage where
  content : Bytes
  capacityBytes : ℕ
  checksum : String
deriving DecidableEq

namespace RelocationImport

/-- `WriteChunk`; `fault` is an error of the file system. -/
def writeChunk (r : RelocationImport) (offset : ℕ) (data : Bytes) (fault : Bool) :
    Option RelocationImport :=
  if offset ≠ r.written ∨ data = [] then none
  else if r.capacityBytes < r.written + data.length then none
  else if fault then none
  else some { r with
    content := writeSparseRelocationChunk r.content offset data
    written := r.written + data.length
    hashed := r.hashed ++ data }

/-- `Complete`, up to the receipt. -/
def complete (sha256 : Bytes → String) (r : RelocationImport) (size : ℕ) (checksum : String)
    (fault : Bool) :
    Option ImportedImage :=
  if size ≠ r.written ∨ size ≠ r.capacityBytes then none
  else if checksum ≠ sha256 r.hashed then none
  else if fault then none
  else some ⟨truncate 0 r.content r.capacityBytes, r.capacityBytes, sha256 r.hashed⟩

/-- The import has been given the bytes `bytes`, and its file reads as them and then as zero. -/
structure Holds (r : RelocationImport) (bytes : Bytes) : Prop where
  written : r.written = bytes.length
  hashed : r.hashed = bytes
  reads : ∀ i, read 0 r.content i = read 0 bytes i

theorem holds_start (capacityBytes n : ℕ) : Holds ⟨capacityBytes, List.replicate n 0, 0, []⟩ [] :=
  ⟨rfl, rfl, fun i => SparseFile.read_replicate n i⟩

theorem Holds.writeChunk {r r' : RelocationImport} {bytes : Bytes} (h : Holds r bytes) {offset : ℕ}
    {fault : Bool} (hr : r.writeChunk offset data fault = some r') :
    Holds r' (bytes ++ data) ∧ r'.capacityBytes = r.capacityBytes := by
  rw [RelocationImport.writeChunk] at hr
  split at hr
  · cases hr
  next hok =>
  split at hr
  · cases hr
  split at hr
  · cases hr
  cases hr
  obtain rfl : offset = r.written := by
    by_contra hne
    exact hok (.inl hne)
  refine ⟨⟨?_, ?_, fun i => ?_⟩, rfl⟩
  · show r.written + data.length = _
    rw [h.written, List.length_append]
  · show r.hashed ++ data = _
    rw [h.hashed]
  · have hfresh : ∀ i, r.written ≤ i → read 0 r.content i = 0 := by
      intro i hi
      rw [h.reads i]
      exact SparseFile.read_of_length_le (h.written ▸ hi)
    show read 0 (writeSparseRelocationChunk r.content r.written data) i = _
    rw [read_writeSparseRelocationChunk data hfresh, SparseFile.read_append, h.reads i, h.written]
    by_cases hlow : i < bytes.length
    · rw [if_neg (by omega), if_pos hlow]
    · rw [if_neg hlow]
      split
      · rfl
      next hhigh =>
        have hbytes : read 0 bytes i = 0 := SparseFile.read_of_length_le (by omega)
        have hdata : read 0 data (i - bytes.length) = 0 := SparseFile.read_of_length_le (by omega)
        rw [hbytes, hdata]

/-- A completed import has published what it was given. -/
theorem Holds.complete {sha256 : Bytes → String} {r : RelocationImport} {bytes : Bytes}
    (h : Holds r bytes) {size : ℕ} {checksum : String} {fault : Bool} {image : ImportedImage}
    (hr : r.complete sha256 size checksum fault = some image) :
    image = ⟨bytes, bytes.length, sha256 bytes⟩ ∧ size = bytes.length ∧
      checksum = sha256 bytes := by
  rw [RelocationImport.complete] at hr
  split at hr
  · cases hr
  next hsize =>
  split at hr
  · cases hr
  next hchecksum =>
  split at hr
  · cases hr
  cases hr
  have hwritten : size = r.written := by
    by_contra hne
    exact hsize (.inl hne)
  have hcapacity : size = r.capacityBytes := by
    by_contra hne
    exact hsize (.inr hne)
  have hlength : r.capacityBytes = bytes.length := by
    rw [← hcapacity, hwritten, h.written]
  have hcontent : truncate 0 r.content r.capacityBytes = bytes := by
    refine SparseFile.ext_read (z := 0) (by simp [hlength]) fun i hi => ?_
    rw [SparseFile.read_truncate (by simpa using hi), h.reads i]
  have hsum : checksum = sha256 r.hashed := not_not.1 hchecksum
  rw [h.hashed] at hsum
  refine ⟨?_, hcapacity.trans hlength, hsum⟩
  rw [hcontent, hlength, h.hashed]

end RelocationImport

end SecondBox.Runner
