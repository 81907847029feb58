import TailView.Proofs.Lines
import TailView.Proofs.Session.Order

/-!
# How the bytes arrive makes no difference

The bytes of a log arrive in payloads that can end anywhere, and between them the server answers
heartbeats.  What a session makes of the bytes depends on the bytes alone.  So a replayed log looks
the same whatever the size of its chunks, and the same as if it had come from the server.
-/

namespace TailView

/-- The bytes of the log that a payload carries. -/
def Payload.logBytes : Payload → List UInt8
  | .binary bytes => bytes
  | .text _ | .unsupported _ => []

/-- Whether a payload is a notice of the server, which is shown as an entry of its own. -/
def Payload.isNotice : Payload → Bool
  | .text notice => notice ≠ Command.pongMessage
  | .binary _ | .unsupported _ => false

/-- Payloads that carry some bytes of the log, cut in any way, and nothing else that is shown. -/
structure Frames (payloads : List Payload) (bytes : List UInt8) : Prop where
  /-- The pieces are the bytes. -/
  carried : payloads.flatMap Payload.logBytes = bytes
  /-- There is no notice among the payloads. -/
  silent : ∀ payload ∈ payloads, payload.isNotice = false

namespace Session

variable {session : Session} {payloads : List Payload} {bytes : List UInt8}

/-! ## What a line leaves alone -/

/-- The same session over another transport: other bytes wait, the connection is another one, and
other messages are queued for the server. -/
def withTransport
    (session : Session)
    (lines : LineBuffer)
    (connection : Connection)
    (outbound : Array String) :
    Session :=
  { session with lines, connection, outbound }

section Transport

variable (session : Session) (lines : LineBuffer) (connection : Connection)
  (outbound : Array String)

@[simp] theorem lines_withTransport :
    (session.withTransport lines connection outbound).lines = lines := rfl

@[simp] theorem mainView_withTransport :
    (session.withTransport lines connection outbound).mainView = session.mainView := rfl

@[simp] theorem focusView_withTransport :
    (session.withTransport lines connection outbound).focusView = session.focusView := rfl

/-- What becomes of a line does not depend on the transport. -/
theorem addLine_withTransport (line : String) :
    (session.withTransport lines connection outbound).addLine line =
      (session.addLine line).withTransport lines connection outbound := by
  have sameClassifier :
      (session.withTransport lines connection outbound).classifier = session.classifier := rfl
  cases found : session.classifier.continued? line with
  | some id =>
      rw [addLine_of_continued found, addLine_of_continued (sameClassifier ▸ found),
        growSection_eq, growSection_eq]
      rfl
  | none =>
      rw [addLine_of_fresh found, addLine_of_fresh (sameClassifier ▸ found), enter_eq, enter_eq]
      rfl

@[simp] theorem foldl_addLine_withTransport (added : List String) :
    added.foldl addLine (session.withTransport lines connection outbound) =
      (added.foldl addLine session).withTransport lines connection outbound := by
  induction added generalizing session with
  | nil => rfl
  | cons line rest inductionHypothesis =>
      rw [List.foldl_cons, addLine_withTransport, inductionHypothesis, List.foldl_cons]

end Transport

/-! ## Bytes that arrive -/

/-- The lines that bytes complete come in, and the other bytes wait. -/
theorem receive_binary (session : Session) (bytes : List UInt8) :
    session.receive (.binary bytes) =
      ((session.lines.feed bytes).2.foldl addLine session).withTransport
        (session.lines.feed bytes).1 session.connection session.outbound :=
  foldl_addLine_withTransport session _ session.connection session.outbound _

/-- When the stream ends the waiting bytes come in as a line, and nothing waits. -/
theorem endStream_eq (session : Session) :
    session.endStream =
      (session.lines.flush.toList.foldl addLine session).withTransport
        .empty session.connection session.outbound := by
  unfold endStream
  cases flushed : session.lines.flush with
  | some line => exact addLine_withTransport session _ session.connection session.outbound line
  | none =>
      have nothing := LineBuffer.eq_empty_of_flush flushed
      rw [← nothing]
      rfl

/-- Two chunks are taken in like their concatenation. -/
theorem receive_append (session : Session) (first second : List UInt8) :
    session.receive (.binary (first ++ second)) =
      (session.receive (.binary first)).receive (.binary second) := by
  simp only [receive_binary, LineBuffer.feed_append, List.foldl_append,
    foldl_addLine_withTransport, lines_withTransport]
  rfl

/-- Over another transport the same bytes lead to the same session over that transport. -/
theorem endStream_receive_withTransport
    (session : Session)
    (connection : Connection)
    (outbound : Array String)
    (bytes : List UInt8) :
    ((session.withTransport session.lines connection outbound).receive (.binary bytes)).endStream =
      (session.receive (.binary bytes)).endStream.withTransport .empty connection outbound := by
  simp only [receive_binary, endStream_eq, foldl_addLine_withTransport, lines_withTransport]
  rfl

/-- What is no notice counts for its bytes only. -/
theorem receive_of_silent {payload : Payload} (silent : payload.isNotice = false) :
    session.receive payload = session.receive (.binary payload.logBytes) := by
  cases payload with
  | binary bytes => rfl
  | text notice =>
      have isPong : notice = Command.pongMessage := by simpa [Payload.isNotice] using silent
      exact if_pos isPong
  | unsupported description => rfl

/-- Payloads are taken in like the bytes that they carry. -/
theorem run_frames (session : Session) (frames : Frames payloads bytes) :
    session.run (payloads.map .receive) = session.receive (.binary bytes) := by
  obtain ⟨rfl, silent⟩ := frames
  induction payloads generalizing session with
  | nil => rfl
  | cons payload rest inductionHypothesis =>
      rw [List.forall_mem_cons] at silent
      have taken := inductionHypothesis (session.receive payload) silent.2
      rw [List.flatMap_cons, receive_append, ← receive_of_silent silent.1]
      exact taken

/-- A file is opened, its bytes arrive, and the stream ends. -/
theorem run_openFile_frames
    (session : Session)
    (file : String)
    (amount : Amount)
    (frames : Frames payloads bytes) :
    session.run (.openFile file amount :: payloads.map .receive ++ [.endStream]) =
      ((session.openFile file amount).receive (.binary bytes)).endStream := by
  rw [← run_frames (session.openFile file amount) frames]
  exact List.foldl_append

/-- The same when the connection opens first. -/
theorem run_connected_openFile_frames
    (session : Session)
    (file : String)
    (amount : Amount)
    (frames : Frames payloads bytes) :
    session.run (.connected :: .openFile file amount :: payloads.map .receive ++ [.endStream]) =
      ((session.connected.openFile file amount).receive (.binary bytes)).endStream :=
  run_openFile_frames session.connected file amount frames

/-! ## Replaying a log -/

/-- The bound on the number of pieces is never reached. -/
theorem flatten_chunksFrom {α : Type} (size bound : Nat) (xs : List α) (le : xs.length ≤ bound) :
    (chunksFrom size bound xs).flatten = xs := by
  induction bound generalizing xs with
  | zero =>
      rw [List.length_eq_zero_iff.mp (Nat.le_zero.mp le)]
      rfl
  | succ bound inductionHypothesis =>
      cases xs with
      | nil => rfl
      | cons x rest =>
          have fewer : ((x :: rest).drop (max size 1)).length ≤ bound := by
            rw [List.length_drop]
            omega
          rw [chunksFrom, List.flatten_cons, inductionHypothesis _ fewer, List.take_append_drop]
          exact List.cons_ne_nil x rest

/-- The pieces of a list are the list. -/
theorem flatten_chunks {α : Type} (size : Nat) (xs : List α) : (chunks size xs).flatten = xs :=
  flatten_chunksFrom size xs.length xs (Nat.le_refl _)

/-- The chunks of a replayed log carry its bytes. -/
theorem frames_chunks (chunkSize : Nat) (bytes : List UInt8) :
    Frames ((chunks chunkSize bytes).map .binary) bytes where
  carried := by
    rw [List.flatMap_map]
    exact List.flatMap_id.trans (flatten_chunks chunkSize bytes)
  silent := by
    rw [List.forall_mem_map]
    exact fun _ _ => rfl

/-- A replay reads the whole log at once. -/
theorem run_replayOperations
    (session : Session)
    (file : String)
    (amount : Amount)
    (bytes : List UInt8)
    (chunkSize : Nat) :
    session.run (replayOperations file amount bytes chunkSize) =
      ((session.openFile file amount).receive (.binary bytes)).endStream := by
  rw [← run_openFile_frames session file amount (frames_chunks chunkSize bytes), List.map_map]
  rfl

/-- When a new session is connected before its first file is opened, only the transport differs. -/
theorem openFile_connected (options : SessionOptions) (file : String) (amount : Amount) :
    let opened := (ofOptions options).openFile file amount
    let live := (ofOptions options).connected.openFile file amount
    live = opened.withTransport opened.lines live.connection live.outbound :=
  rfl

/-- However the bytes of a log are cut, and whatever answers to heartbeats stand between them, they
leave the session that they leave in one piece.  So a replay is the same for all sizes of chunks,
and its views are those of a session that got the bytes from the server. -/
theorem run_frames_eq_receive
    (options : SessionOptions)
    (operations : List Operation)
    (frames : Frames payloads bytes) :
    let reached := (ofOptions options).run operations
    reached.run (payloads.map .receive) = reached.receive (.binary bytes) ∧
      ∀ file amount chunkSize,
        let replayed := (ofOptions options).run (replayOperations file amount bytes chunkSize)
        let live := (ofOptions options).run
          (.connected :: .openFile file amount :: payloads.map .receive ++ [.endStream])
        (∀ otherSize,
          (ofOptions options).run (replayOperations file amount bytes otherSize) = replayed) ∧
        replayed.mainView = live.mainView ∧ replayed.focusView = live.focusView := by
  intro reached
  refine ⟨run_frames reached frames, ?_⟩
  intro file amount chunkSize replayed live
  let opened := (ofOptions options).openFile file amount
  have replayedEq : replayed = (opened.receive (.binary bytes)).endStream :=
    run_replayOperations (ofOptions options) file amount bytes chunkSize
  have liveEq : live =
      (((ofOptions options).connected.openFile file amount).receive (.binary bytes)).endStream :=
    run_connected_openFile_frames (ofOptions options) file amount frames
  rw [openFile_connected, endStream_receive_withTransport, ← replayedEq] at liveEq
  refine ⟨?_, ?_, ?_⟩
  · intro otherSize
    rw [run_replayOperations]
    exact replayedEq.symm
  · rw [liveEq, mainView_withTransport]
  · rw [liveEq, focusView_withTransport]

/-- A log in chunks that end inside a line end and inside a character, with an answer to a heartbeat
and a payload of no use between them. -/
def cutCharacter : List Payload :=
  let bytes := "*ERROR* first\r\n\tcaf\u00e9\nlast".toUTF8.toList
  [.binary (bytes.take 14), .text "pong", .binary ((bytes.drop 14).take 6),
    .unsupported "raw frame", .binary [], .binary (bytes.drop 20)]

theorem run_frames_eq_receive_cutCharacter :
    let bytes := "*ERROR* first\r\n\tcaf\u00e9\nlast".toUTF8.toList
    let reached := (ofOptions {}).run [.receive (.binary "half ".toUTF8.toList)]
    Frames cutCharacter bytes ∧
      (reached.run (cutCharacter.map .receive) = reached.receive (.binary bytes) ∧
        ∀ file amount chunkSize,
          let replayed := (ofOptions {}).run (replayOperations file amount bytes chunkSize)
          let live := (ofOptions {}).run
            (.connected :: .openFile file amount :: cutCharacter.map .receive ++ [.endStream])
          (∀ otherSize,
            (ofOptions {}).run (replayOperations file amount bytes otherSize) = replayed) ∧
          replayed.mainView = live.mainView ∧ replayed.focusView = live.focusView) ∧
      (reached.run (cutCharacter.map .receive)).mainView.map (·.text) =
        ["half *ERROR* first\n\tcaf\u00e9"] := by
  intro bytes reached
  have frames : Frames cutCharacter bytes := ⟨by decide +kernel, by decide +kernel⟩
  exact ⟨frames,
    run_frames_eq_receive {} [.receive (.binary "half ".toUTF8.toList)] frames,
    by decide +kernel⟩

end Session
end TailView
