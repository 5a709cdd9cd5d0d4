import IpkChat.Tcp.Session

namespace IpkChat.Tcp

/-! The moves of the TCP phase and REPLY wait, however many frames one `recv` brings. -/

namespace TcpClient

/-- `c'` is in the phase of `c` and waits when `c` does. -/
def KeepsPhase (c c' : TcpClient) : Prop :=
  c'.currentState = c.currentState ∧ c'.isWaitingForReply = c.isWaitingForReply

/-- A request starts a wait: `/auth` from `S_START` or `S_AUTH` into `S_AUTH`,
`/join` from `S_OPEN` into `S_JOIN`. -/
def StartsWait (c c' : TcpClient) : Prop :=
  c.isWaitingForReply = false ∧ c'.isWaitingForReply = true ∧
    ((c.currentState = .sStart ∨ c.currentState = .sAuth) ∧ c'.currentState = .sAuth ∨
      c.currentState = .sOpen ∧ c'.currentState = .sJoin)

/-- A REPLY ends the wait: from `S_JOIN` into `S_OPEN`, from `S_AUTH` into
`S_OPEN` or back into `S_AUTH`. -/
def EndsWait (c c' : TcpClient) : Prop :=
  c.isWaitingForReply = true ∧ c'.isWaitingForReply = false ∧
    (c.currentState = .sJoin ∧ c'.currentState = .sOpen ∨
      c.currentState = .sAuth ∧ (c'.currentState = .sOpen ∨ c'.currentState = .sAuth))

/-- What the frames of one `recv` may do when the loop goes on. -/
def Settles (c c' : TcpClient) : Prop := KeepsPhase c c' ∨ EndsWait c c'

variable {c c₁ c₂ : TcpClient}

theorem KeepsPhase.of_flags (hstate : c₁.currentState = c.currentState)
    (hwaiting : c₁.isWaitingForReply = c.isWaitingForReply) : Settles c c₁ :=
  .inl ⟨hstate, hwaiting⟩

/-- After the wait has ended nothing ends it again, so settling composes. -/
theorem Settles.trans (h₁ : Settles c c₁) (h₂ : Settles c₁ c₂) : Settles c c₂ := by
  rcases h₁ with ⟨hstate₁, hwaiting₁⟩ | ⟨hwaiting, hwaiting₁, hphase⟩ <;>
    rcases h₂ with ⟨hstate₂, hwaiting₂⟩ | ⟨hwaiting₁', hwaiting₂, hphase₁⟩
  · exact .inl ⟨hstate₂.trans hstate₁, hwaiting₂.trans hwaiting₁⟩
  · exact .inr ⟨hwaiting₁.symm.trans hwaiting₁', hwaiting₂, by rwa [hstate₁] at hphase₁⟩
  · exact .inr ⟨hwaiting, hwaiting₂.trans hwaiting₁, by rwa [hstate₂]⟩
  · exact absurd (hwaiting₁.symm.trans hwaiting₁') Bool.false_ne_true

/-- A REPLY that lets the loop go on was awaited, in `S_AUTH` or `S_JOIN`, and
ends the wait. -/
theorem endsWait_processServerReplyMsg {frame : Bytes}
    (hproceed : (c.processServerReplyMsg frame).2 = .proceed) :
    EndsWait c (c.processServerReplyMsg frame).1 := by
  rcases c.processServerReplyMsg_cases frame with
    ⟨errMsg, herr⟩ | ⟨result, content, hstate, hwaiting, hmatch, hlength⟩
  · rw [herr, sendErrMsgAndTerminate_verdict] at hproceed
    cases hproceed
  · rw [processServerReplyMsg_of_match hstate hwaiting hmatch hlength]
    refine ⟨hwaiting, rfl, ?_⟩
    rcases hstate with hauth | hjoin
    · exact .inr ⟨hauth, by split_ifs; exacts [.inl rfl, .inr hauth]⟩
    · exact .inl ⟨hjoin, if_pos (.inl hjoin)⟩

theorem settles_processMessageFromServer {buffer frame : Bytes}
    (hproceed : (c.processMessageFromServer buffer frame).2 = .proceed) :
    Settles c (c.processMessageFromServer buffer frame).1 := by
  rcases processMessageFromServer_proceed hproceed with hmsg | hreply
  · rw [hmsg] at hproceed ⊢
    obtain ⟨_, _, -, -, -, hemit⟩ := processServerMsgMsg_proceed c hproceed
    rw [hemit]
    exact KeepsPhase.of_flags rfl rfl
  · rw [hreply] at hproceed ⊢
    exact .inr (endsWait_processServerReplyMsg hproceed)

theorem settles_dispatchSegments (frames : List Bytes)
    (hproceed : (c.dispatchSegments frames).2 = .proceed) :
    Settles c (c.dispatchSegments frames).1 := by
  induction frames generalizing c with
  | nil => exact KeepsPhase.of_flags rfl rfl
  | cons frame frames ih =>
      unfold dispatchSegments at hproceed ⊢
      split_ifs at hproceed ⊢
      · simp at hproceed
      · obtain ⟨hfirst, hrest⟩ := andThen_eq_proceed hproceed
        rw [hrest] at hproceed ⊢
        exact (settles_processMessageFromServer hfirst).trans (ih hproceed)

theorem settles_processFrames (buffer : Bytes) (hproceed : (c.processFrames buffer).2.2 = .proceed) :
    Settles c (c.processFrames buffer).1 := by
  obtain ⟨hdispatch, -⟩ := c.processFrames_dispatchStream buffer
  have hstream : (c.dispatchStream buffer).2 = .proceed := by rw [← hdispatch]; exact hproceed
  unfold dispatchStream at hdispatch hstream
  obtain ⟨hsegments, hrest⟩ := andThen_eq_proceed hstream
  rw [hrest] at hdispatch hstream
  rw [(checkTail_eq_proceed hstream).2] at hdispatch
  rw [congrArg Prod.fst hdispatch]
  exact settles_dispatchSegments _ hsegments

/-- A line of stdin read while no REPLY is awaited keeps the phase or starts
a wait. -/
theorem keepsPhase_or_startsWait_processStdinEvent (hwaiting : c.isWaitingForReply = false)
    (event : StdinEvent) :
    KeepsPhase c (c.processStdinEvent event).1 ∨ StartsWait c (c.processStdinEvent event).1 := by
  rcases event with (_ | input) | _ | _
  · exact .inl ⟨rfl, rfl⟩
  · simp only [processStdinEvent]
    split
    · exact .inl ⟨rfl, rfl⟩
    · exact .inl ⟨rfl, rfl⟩
    · rename_i hsend
      cases input with
      | auth username secret displayName =>
          have hphase := phase_of_send_auth hsend
          exact .inr ⟨hwaiting, rfl, .inl ⟨hphase, sendUserInput_auth_currentState hphase⟩⟩
      | join channelId => exact .inr ⟨hwaiting, rfl, .inr ⟨phase_of_send_join hsend, rfl⟩⟩
      | msg content => exact .inl ⟨rfl, rfl⟩
      | rename displayName => cases canSendMessageType_of_send hsend
      | help => cases canSendMessageType_of_send hsend
  · exact .inl ⟨rfl, rfl⟩
  · exact .inl ⟨rfl, rfl⟩

end TcpClient

/-- From every reachable state, a wake that goes on leaves the phase and the wait
alone, starts a wait on a line of stdin (`/auth` into `S_AUTH`, `/join` into
`S_JOIN`), or ends it on bytes received (into `S_OPEN`, or back into `S_AUTH`). -/
theorem phase_transitions {args : Args} {s : TcpClient × Bytes} (h : Reachable args s) (e : Event)
    (henabled : e.enabled s.1) (hproceed : (step s e).2 = .proceed) :
    TcpClient.KeepsPhase s.1 (step s e).1.1 ∨
      (∃ event, e = .stdin event) ∧ TcpClient.StartsWait s.1 (step s e).1.1 ∨
      (∃ bytes, e = .received bytes) ∧ TcpClient.EndsWait s.1 (step s e).1.1 := by
  obtain ⟨c, buffer⟩ := s
  cases e with
  | stdin event =>
      have hwaiting : c.isWaitingForReply = false :=
        h.sessionInvariant.waitConsistent.not_waiting henabled
      rcases TcpClient.keepsPhase_or_startsWait_processStdinEvent hwaiting event with hkeeps | hstarts
      · exact .inl hkeeps
      · exact .inr (.inl ⟨⟨event, rfl⟩, hstarts⟩)
  | timerExpired => exact absurd hproceed (TcpClient.processTimerEvent_ne_proceed _)
  | sigint => cases hproceed
  | received bytes =>
      by_cases hbytes : bytes = []
      · subst hbytes
        cases hproceed
      · simp only [Tcp.step, TcpClient.processSocketEvent_of_ne_nil _ _ hbytes] at hproceed ⊢
        rcases TcpClient.settles_processFrames _ hproceed with hkeeps | hends
        · exact .inl hkeeps
        · exact .inr (.inr ⟨⟨bytes, rfl⟩, hends⟩)
  | recvFailed => cases hproceed

/-- `/auth` on a new client starts the wait for the REPLY in `S_AUTH`. -/
theorem phase_transitions_auth :
    TcpClient.StartsWait (TcpClient.init tcpArgs) authScenario.1 :=
  match phase_transitions .init (.stdin (.readable (some (.auth (ascii "alice") (ascii "secret")
      (ascii "Alice"))))) (by decide) (by decide) with
  | .inl hkeeps => absurd hkeeps.1 (by decide)
  | .inr (.inl ⟨_, hstarts⟩) => hstarts
  | .inr (.inr ⟨⟨_, hreceived⟩, _⟩) => nomatch hreceived

end IpkChat.Tcp
