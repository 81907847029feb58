import TailView.Proofs.Session.Grouping

/-!
# Lines of a session

Whatever is done to a session, no newline waits in its line buffer, so every line that an operation
completes is a single line.
-/

namespace TailView

namespace LineBuffer

/-- No newline waits after an operation if none did before. -/
theorem absorb_clean {buffer : LineBuffer} (clean : buffer.Clean) (operation : Operation) :
    (buffer.absorb operation).1.Clean := by
  cases operation with
  | receive payload =>
      cases payload with
      | binary bytes => exact (feed_clean clean bytes).1
      | text | unsupported => exact clean
  | endStream => exact List.not_mem_nil
  | _ => exact clean

end LineBuffer

namespace Session

theorem lines_note (session : Session) (text : String) :
    (session.note text).lines = session.lines :=
  congrArg Surroundings.lines (surroundings_note session text)

theorem lines_reload (session : Session) :
    session.reload.lines = .empty ∨ session.reload.lines = session.lines := by
  unfold reload
  split
  · exact .inl rfl
  · exact .inr rfl

theorem lines_toggleFollow (session : Session) :
    session.toggleFollow.lines = .empty ∨ session.toggleFollow.lines = session.lines := by
  unfold toggleFollow
  split
  · exact .inl rfl
  · exact lines_reload { session with follow := true }

theorem lines_receive (session : Session) (payload : Payload) :
    (session.receive payload).lines = (session.lines.absorb (.receive payload)).1 := by
  cases payload with
  | binary bytes =>
      exact congrArg Surroundings.lines (surroundings_foldl_addLine
        { session with lines := (session.lines.feed bytes).1 } (session.lines.feed bytes).2)
  | text notice =>
      rw [receive]
      split
      · rfl
      · exact lines_note session notice
  | unsupported description => rfl

theorem lines_endStream (session : Session) : session.endStream.lines = .empty := by
  unfold endStream
  split
  · next line _ =>
      exact congrArg Surroundings.lines
        (surroundings_addLine { session with lines := .empty } line)
  · next nothing => exact LineBuffer.eq_empty_of_flush nothing

/-- An operation empties the line buffer or does to it what is done to a line buffer. -/
theorem lines_perform (session : Session) (operation : Operation) :
    (session.perform operation).lines = .empty ∨
      (session.perform operation).lines = (session.lines.absorb operation).1 := by
  cases operation with
  | openFile | stop => exact .inl rfl
  | reload => exact lines_reload session
  | toggleFollow => exact lines_toggleFollow session
  | handle control now =>
      cases control with
      | openFile | stop => exact .inl rfl
      | toggleFollow => exact lines_toggleFollow session
      | reload => exact lines_reload session
      | filter | toggleErrorFocus | quit => exact .inr rfl
  | connected =>
      rw [perform, connected]
      split
      · exact .inl rfl
      · exact .inr rfl
  | pollFilter now =>
      rw [perform, pollFilter]
      split <;> exact .inr rfl
  | receive payload => exact .inr (lines_receive session payload)
  | endStream => exact .inl (lines_endStream session)
  | note text => exact .inr (lines_note session text)
  | disconnected reason => exact .inr (lines_note _ _)
  | _ => exact .inr rfl

/-- No newline waits, whatever is done to a session. -/
theorem clean_run (options : SessionOptions) (operations : List Operation) :
    ((ofOptions options).run operations).lines.Clean := by
  have emptyClean : LineBuffer.empty.Clean := List.not_mem_nil
  induction operations using List.reverseRecOn with
  | nil => exact emptyClean
  | append_singleton before operation inductionHypothesis =>
      have oneMore : (ofOptions options).run (before ++ [operation]) =
          ((ofOptions options).run before).perform operation :=
        List.foldl_append
      rw [oneMore]
      rcases lines_perform ((ofOptions options).run before) operation with emptied | absorbed
      · rw [emptied]
        exact emptyClean
      · rw [absorbed]
        exact LineBuffer.absorb_clean inductionHypothesis operation

end Session
end TailView
