import IpkChat.Tcp.Framing
import IpkChat.Tcp.Codec

namespace IpkChat.Tcp

/-! The TCP session as a state machine: what every wake of `Client::run` keeps. -/

namespace TcpClient

/-- The wait flags agree: the timer is armed and stdin suspended exactly while
a REPLY is awaited, which is only in `S_AUTH` or `S_JOIN`, and always in
`S_JOIN`. -/
structure WaitConsistent (c : TcpClient) : Prop where
  timer_isSome : c.timer.isSome = c.isWaitingForReply
  stdin_registered : c.stdinRegistered = !c.isWaitingForReply
  phase_of_waiting : c.isWaitingForReply = true → c.currentState = .sAuth ∨ c.currentState = .sJoin
  waiting_of_join : c.currentState = .sJoin → c.isWaitingForReply = true

theorem waitConsistent_init (args : Args) : (init args).WaitConsistent :=
  ⟨rfl, rfl, nofun, nofun⟩

/-- An accepted REPLY ends the wait, whatever the flags were: the timer is
stopped, stdin registered again, and the client is out of `S_JOIN`. -/
theorem waitConsistent_processServerReplyMsg {c : TcpClient} {frame : Bytes} (hproceed : (c.processServerReplyMsg frame).2 = .proceed) :
    (c.processServerReplyMsg frame).1.WaitConsistent := by
  rcases c.processServerReplyMsg_cases frame with
    ⟨errMsg, herr⟩ | ⟨result, content, hstate, hwaiting, hmatch, hlength⟩
  · rw [herr, sendErrMsgAndTerminate_verdict] at hproceed
    cases hproceed
  · rw [processServerReplyMsg_of_match hstate hwaiting hmatch hlength]
    refine ⟨rfl, rfl, nofun, fun hjoin => ?_⟩
    split_ifs at hjoin with hopen
    exact absurd (.inl hjoin) hopen

/-- `/auth` sent from `S_START` or `S_AUTH` leaves the client in `S_AUTH`. -/
theorem sendUserInput_auth_currentState {c : TcpClient} {username secret displayName : Bytes}
    (hphase : c.currentState = .sStart ∨ c.currentState = .sAuth) :
    (c.sendUserInput (.auth username secret displayName)).currentState = .sAuth := by
  rcases hphase with hphase | hphase <;>
    simp [sendUserInput, UserInput.msgType, hphase, buildUserMsgToServer, buildAuthMsg,
      sendMsgToServer, emit, disableStdinEvents, startTimer]

namespace WaitConsistent

variable {c : TcpClient} (h : c.WaitConsistent)
include h

/-- A handler that leaves the phase, the wait flag, the timer and the stdin
registration alone keeps the invariant. -/
theorem of_flags {c' : TcpClient} (hstate : c'.currentState = c.currentState)
    (hwaiting : c'.isWaitingForReply = c.isWaitingForReply) (htimer : c'.timer = c.timer)
    (hstdin : c'.stdinRegistered = c.stdinRegistered) : c'.WaitConsistent := by
  obtain ⟨h₁, h₂, h₃, h₄⟩ := h
  refine ⟨?_, ?_, ?_, ?_⟩ <;> simp only [hstate, hwaiting, htimer, hstdin] <;> assumption

/-- Stdin is registered only when no REPLY is awaited. -/
theorem not_waiting (hstdin : c.stdinRegistered = true) : c.isWaitingForReply = false := by
  simpa [hstdin] using h.stdin_registered

/-- A command `processNonMsgToServer` lets through keeps the invariant: `/auth`
and `/join` start the wait in `S_AUTH` and `S_JOIN`, a message leaves the flags
alone. -/
theorem sendUserInput (hstdin : c.stdinRegistered = true) {input : UserInput}
    (hsend : processNonMsgToServer c.currentState input = .send) :
    (c.sendUserInput input).WaitConsistent := by
  have hwaiting := h.not_waiting hstdin
  cases input with
  | auth username secret displayName =>
      have hauth : (c.sendUserInput (.auth username secret displayName)).currentState = .sAuth :=
        sendUserInput_auth_currentState (phase_of_send_auth hsend)
      exact ⟨rfl, rfl, fun _ => .inl hauth, fun hjoin => nomatch hauth.symm.trans hjoin⟩
  | join channelId =>
      refine ⟨rfl, rfl, fun _ => .inr rfl, fun _ => rfl⟩
  | msg content =>
      exact h.of_flags rfl rfl rfl rfl
  | rename displayName => cases canSendMessageType_of_send hsend
  | help => cases canSendMessageType_of_send hsend

/-- Stdin is read only while registered, and what it leads to keeps the
invariant. -/
theorem processStdinEvent (hstdin : c.stdinRegistered = true) {event : StdinEvent}
    (hproceed : (c.processStdinEvent event).2 = .proceed) :
    (c.processStdinEvent event).1.WaitConsistent := by
  cases event with
  | readable input =>
      rcases input with _ | input
      · exact h
      · simp only [TcpClient.processStdinEvent]
        split
        · exact h.of_flags rfl rfl rfl rfl
        · exact h.of_flags rfl rfl rfl rfl
        · exact h.sendUserInput hstdin ‹_›
  | hangup => cases hproceed
  | error => cases hproceed

end WaitConsistent

/-- Only a MSG or a REPLY lets the loop go on: a BYE or an ERR ends it even
when well formed, and every other type is rejected. -/
theorem processMessageFromServer_proceed {c : TcpClient} {buffer frame : Bytes}
    (h : (c.processMessageFromServer buffer frame).2 = .proceed) :
    c.processMessageFromServer buffer frame = c.processServerMsgMsg frame ∨
      c.processMessageFromServer buffer frame = c.processServerReplyMsg frame := by
  revert h
  simp only [processMessageFromServer]
  repeat' split
  all_goals intro h
  all_goals first
    | simp at h
    | exact .inl rfl
    | exact .inr rfl
    | (rename_i hne; exact (hne _ (Prod.ext rfl h)).elim)

theorem WaitConsistent.processMessageFromServer {c : TcpClient} (h : c.WaitConsistent)
    {buffer frame : Bytes} (hproceed : (c.processMessageFromServer buffer frame).2 = .proceed) :
    (c.processMessageFromServer buffer frame).1.WaitConsistent := by
  rcases processMessageFromServer_proceed hproceed with hmsg | hreply
  · rw [hmsg] at hproceed ⊢
    obtain ⟨_, _, -, -, -, hemit⟩ := processServerMsgMsg_proceed c hproceed
    rw [hemit]
    exact h.of_flags rfl rfl rfl rfl
  · rw [hreply] at hproceed ⊢
    exact waitConsistent_processServerReplyMsg hproceed

/-- The expiry of the timer always ends the loop: with an ERR when a REPLY was
awaited, with an exception otherwise. -/
theorem processTimerEvent_ne_proceed (c : TcpClient) : c.processTimerEvent.2 ≠ .proceed := by
  unfold processTimerEvent
  split_ifs <;> simp

theorem andThen_eq_proceed {result : TcpClient × Verdict} {k : TcpClient → TcpClient × Verdict}
    (h : (andThen result k).2 = .proceed) : result.2 = .proceed ∧ andThen result k = k result.1 := by
  obtain ⟨c, _ | _ | _ | _⟩ := result <;> first | exact ⟨rfl, rfl⟩ | cases h

theorem WaitConsistent.dispatchSegments {c : TcpClient} (h : c.WaitConsistent) (frames : List Bytes)
    (hproceed : (c.dispatchSegments frames).2 = .proceed) :
    (c.dispatchSegments frames).1.WaitConsistent := by
  induction frames generalizing c with
  | nil => exact h
  | cons frame frames ih =>
      unfold TcpClient.dispatchSegments at hproceed ⊢
      split_ifs at hproceed ⊢
      · simp at hproceed
      · obtain ⟨hfirst, hrest⟩ := andThen_eq_proceed hproceed
        rw [hrest] at hproceed ⊢
        exact ih (h.processMessageFromServer hfirst) hproceed

theorem checkTail_eq_proceed {c : TcpClient} {tail : Bytes} (h : (c.checkTail tail).2 = .proceed) :
    tail.length < sMaxMsgSize ∧ c.checkTail tail = (c, .proceed) := by
  unfold checkTail at h ⊢
  split_ifs at h ⊢ with hlong
  · simp at h
  · exact ⟨Nat.lt_of_not_le hlong, rfl⟩

end TcpClient

/-- What holds of the session between two wakes of the loop: the wait flags
agree, and the buffer holds an unterminated tail shorter than
`s_MAX_MSG_SIZE`. -/
structure SessionInvariant (s : TcpClient × Bytes) : Prop where
  waitConsistent : s.1.WaitConsistent
  tail_unterminated : findEndOfMessage s.2 = none
  tail_short : s.2.length < sMaxMsgSize

namespace SessionInvariant

/-- When the loop over the buffer goes on, the client keeps the invariant and
the tail left behind is unterminated and short. -/
theorem processFrames {c : TcpClient} (h : c.WaitConsistent) (buffer : Bytes)
    (hproceed : (c.processFrames buffer).2.2 = .proceed) :
    SessionInvariant ((c.processFrames buffer).1, (c.processFrames buffer).2.1) := by
  obtain ⟨hdispatch, hbuffer⟩ := c.processFrames_dispatchStream buffer
  have hstream : (c.dispatchStream buffer).2 = .proceed := by rw [← hdispatch]; exact hproceed
  unfold TcpClient.dispatchStream at hdispatch hstream
  obtain ⟨hsegments, hrest⟩ := TcpClient.andThen_eq_proceed hstream
  rw [hrest] at hdispatch hstream
  obtain ⟨hshort, htail⟩ := TcpClient.checkTail_eq_proceed hstream
  rw [htail] at hdispatch
  rw [congrArg Prod.fst hdispatch, hbuffer hproceed]
  exact ⟨h.dispatchSegments _ hsegments, findEndOfMessage_segments_snd _, hshort⟩

/-- One wake of the loop that lets it go on keeps the invariant. -/
theorem step {s : TcpClient × Bytes} {e : Event} (h : SessionInvariant s) (henabled : e.enabled s.1)
    (hproceed : (Tcp.step s e).2 = .proceed) : SessionInvariant (Tcp.step s e).1 := by
  obtain ⟨c, buffer⟩ := s
  cases e with
  | stdin event =>
      exact ⟨h.waitConsistent.processStdinEvent henabled hproceed, h.tail_unterminated, h.tail_short⟩
  | timerExpired =>
      exact absurd hproceed (TcpClient.processTimerEvent_ne_proceed _)
  | sigint => cases hproceed
  | received bytes =>
      by_cases hbytes : bytes = []
      · subst hbytes
        cases hproceed
      · simp only [Tcp.step, TcpClient.processSocketEvent_of_ne_nil _ _ hbytes] at hproceed ⊢
        exact processFrames h.waitConsistent _ hproceed
  | recvFailed => cases hproceed

end SessionInvariant

/-- The states the session can be in while the loop goes on keep the
invariant. -/
theorem Reachable.sessionInvariant {args : Args} {s : TcpClient × Bytes} (h : Reachable args s) :
    SessionInvariant s := by
  induction h with
  | init => exact ⟨TcpClient.waitConsistent_init args, rfl, by simp [sMaxMsgSize_eq]⟩
  | step _ henabled hproceed ih => exact ih.step henabled hproceed

/-- Every reachable TCP state satisfies `SessionInvariant`, so whatever nonempty
pieces `recv` cuts the rest of the stream into, `processSocketEvent` ends as
`dispatchStream` of the buffer followed by the pieces. -/
theorem session_invariant_of_reachable {args : Args} {s : TcpClient × Bytes}
    (h : Reachable args s) :
    SessionInvariant s ∧
      ∀ chunks : List Bytes, (∀ chunk ∈ chunks, chunk ≠ []) →
        ((s.1.receiveAll s.2 chunks).1, (s.1.receiveAll s.2 chunks).2.2) =
            s.1.dispatchStream (s.2 ++ chunks.flatten) ∧
          ((s.1.receiveAll s.2 chunks).2.2 = .proceed →
            (s.1.receiveAll s.2 chunks).2.1 = (segments (s.2 ++ chunks.flatten)).2) :=
  ⟨h.sessionInvariant, fun chunks hchunks =>
    s.1.receiveAll_dispatchStream s.2 chunks h.sessionInvariant.tail_unterminated
      h.sessionInvariant.tail_short hchunks⟩

/-- The session right after `/auth alice secret Alice` on a new client: a REPLY
is awaited in `S_AUTH`. -/
def authScenario : TcpClient × Bytes :=
  (step (TcpClient.init tcpArgs, [])
    (.stdin (.readable (some (.auth (ascii "alice") (ascii "secret") (ascii "Alice")))))).1

theorem session_invariant_after_auth :
    Reachable tcpArgs authScenario ∧ authScenario.1.isWaitingForReply = true ∧
      SessionInvariant authScenario :=
  have hreach : Reachable tcpArgs authScenario := .step .init (by decide) (by decide)
  ⟨hreach, by decide, (session_invariant_of_reachable hreach).1⟩

end IpkChat.Tcp
