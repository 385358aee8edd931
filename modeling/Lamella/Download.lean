import Lamella.WindowsCore

/-!
The byte counts of `run_http_download_test`.  Whatever chunks the response arrives in, they are
those of the whole stream.
-/

namespace Lamella

/-- CR LF CR LF, the end of the headers. -/
def headerEnd : List UInt8 := [13, 10, 13, 10]

/-- The counters are `u64` in the source and unbounded here. -/
structure HttpDownload where
  headersDone : Bool := false
  headerBuf : List UInt8 := []
  bodyBytes : Nat := 0
  totalBytes : Nat := 0
deriving DecidableEq

/-- Subtraction of `usize`, which must not underflow. -/
def checkedSub (left right : Nat) : Option Nat :=
  if right ≤ left then some (left - right) else none

/-- The closure that `recv` calls with the bytes at hand. -/
def HttpDownload.recv (download : HttpDownload) (data : List UInt8) : Option HttpDownload :=
  if download.headersDone then
    some { download with
      bodyBytes := download.bodyBytes + data.length
      totalBytes := download.totalBytes + data.length }
  else
    let headerBuf := download.headerBuf ++ data
    match Windows.position headerEnd headerBuf with
    | none =>
        some { download with headerBuf, totalBytes := download.totalBytes + data.length }
    | some pos => do
        let remainder ← checkedSub headerBuf.length (pos + 4)
        some {
          headersDone := true
          headerBuf
          bodyBytes := download.bodyBytes + remainder
          totalBytes := download.totalBytes + data.length }

/-- The calls of the closure while a response arrives. -/
def HttpDownload.recvAll (chunks : List (List UInt8)) : Option HttpDownload :=
  chunks.foldlM HttpDownload.recv {}

structure Received (stream : List UInt8) (download : HttpDownload) : Prop where
  total : download.totalBytes = stream.length
  reading : download.headersDone = false →
    download.headerBuf = stream ∧ download.bodyBytes = 0 ∧
      ∀ position, ¬Windows.OccursAt headerEnd stream position
  done : download.headersDone = true → ∃ position, Windows.FirstAt headerEnd stream position ∧
    download.bodyBytes = stream.length - (position + 4)

theorem Received.recv {stream : List UInt8} {download : HttpDownload}
    (received : Received stream download) (data : List UInt8) :
    ∃ next, download.recv data = some next ∧ Received (stream ++ data) next := by
  cases done : download.headersDone with
  | true =>
      have stepped : download.recv data = some { download with
          bodyBytes := download.bodyBytes + data.length
          totalBytes := download.totalBytes + data.length } := by
        rw [HttpDownload.recv, if_pos done]
      obtain ⟨position, found, counted⟩ := received.done done
      have bound : position + 4 ≤ stream.length := found.occurs.bound
      refine ⟨_, stepped, ?_, ?_, ?_⟩
      · simp [received.total]
      · simp [done]
      · intro _
        refine ⟨position, found.append data, ?_⟩
        simp only [counted, List.length_append]
        omega
  | false =>
      obtain ⟨rfl, zero, absent⟩ := received.reading done
      cases searched : Windows.position headerEnd (download.headerBuf ++ data) with
      | none =>
          have stepped : download.recv data = some { download with
              headerBuf := download.headerBuf ++ data
              totalBytes := download.totalBytes + data.length } := by
            simp [HttpDownload.recv, done, searched]
          refine ⟨_, stepped, ?_, ?_, ?_⟩
          · simp [received.total]
          · intro _
            exact ⟨rfl, zero, (Windows.position_eq_none_iff _ _).mp searched⟩
          · simp [done]
      | some position =>
          have found := (Windows.position_eq_some_iff _ _ _).mp searched
          have bound : position + 4 ≤ (download.headerBuf ++ data).length := found.occurs.bound
          have remainder : checkedSub (download.headerBuf ++ data).length (position + 4) =
              some ((download.headerBuf ++ data).length - (position + 4)) := if_pos bound
          have stepped : download.recv data = some {
              headersDone := true
              headerBuf := download.headerBuf ++ data
              bodyBytes :=
                download.bodyBytes + ((download.headerBuf ++ data).length - (position + 4))
              totalBytes := download.totalBytes + data.length } := by
            simp only [HttpDownload.recv, done, searched, remainder]
            rfl
          refine ⟨_, stepped, ?_, ?_, ?_⟩
          · simp [received.total]
          · simp
          · intro _
            exact ⟨position, found, by simp [zero]⟩

theorem HttpDownload.recvAll_received (chunks : List (List UInt8)) :
    ∃ download, HttpDownload.recvAll chunks = some download ∧ Received chunks.flatten download := by
  suffices ∀ (stream : List UInt8) (start : HttpDownload), Received stream start →
      ∃ download, chunks.foldlM HttpDownload.recv start = some download ∧
        Received (stream ++ chunks.flatten) download from
    this [] {} ⟨rfl, by simp [Windows.occursAt_iff, headerEnd], nofun⟩
  induction chunks with
  | nil =>
      intro stream start received
      exact ⟨start, rfl, by simpa using received⟩
  | cons data rest ih =>
      intro stream start received
      obtain ⟨next, stepped, extended⟩ := received.recv data
      obtain ⟨download, ran, final⟩ := ih (stream ++ data) next extended
      refine ⟨download, ?_, by simpa using final⟩
      rw [List.foldlM_cons, stepped]
      exact ran

/-- The counts depend on the bytes that were received and not on how they were split, and the
length of the remainder is never negative. -/
theorem httpDownload_counts_stream (chunks : List (List UInt8)) :
    ∃ download, HttpDownload.recvAll chunks = some download ∧
      download.totalBytes = chunks.flatten.length ∧
      (download.headersDone = true ↔ ∃ position, Windows.OccursAt headerEnd chunks.flatten position) ∧
      (∀ position, Windows.FirstAt headerEnd chunks.flatten position →
        position + 4 ≤ chunks.flatten.length ∧
          download.bodyBytes = chunks.flatten.length - (position + 4)) ∧
      ((∀ position, ¬Windows.OccursAt headerEnd chunks.flatten position) →
        download.bodyBytes = 0) := by
  obtain ⟨download, ran, received⟩ := HttpDownload.recvAll_received chunks
  refine ⟨download, ran, received.total, ?_, ?_, ?_⟩
  · cases done : download.headersDone with
    | true =>
        obtain ⟨position, found, _⟩ := received.done done
        exact ⟨fun _ => ⟨position, found.occurs⟩, fun _ => rfl⟩
    | false =>
        obtain ⟨_, _, absent⟩ := received.reading done
        simp [absent]
  · intro position found
    refine ⟨found.occurs.bound, ?_⟩
    cases done : download.headersDone with
    | true =>
        obtain ⟨other, first, counted⟩ := received.done done
        rw [found.unique first, counted]
    | false =>
        obtain ⟨_, _, absent⟩ := received.reading done
        exact absurd found.occurs (absent position)
  · intro absent
    cases done : download.headersDone with
    | true =>
        obtain ⟨position, found, _⟩ := received.done done
        exact absurd found.occurs (absent position)
    | false => exact (received.reading done).2.1

example : (HttpDownload.recvAll [[72, 13, 10, 13], [10, 66], [67]]).map HttpDownload.bodyBytes =
    some 2 := by decide

end Lamella
