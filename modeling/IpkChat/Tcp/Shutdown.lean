import IpkChat.Tcp.Session

namespace IpkChat.Tcp

/-! How a wake ends the TCP session, seen in what it wrote last, every `send()` succeeding. -/

namespace TcpClient

/-- `c'` is connected where `c` is and has only added lines for the user to
its log. -/
def OnlyShows (c c' : TcpClient) : Prop :=
  c'.serverAddr = c.serverAddr ∧ ∃ lines : List Output, c'.log = c.log ++ lines.map .output

/-- What a handler run from `c` has written when it returns `c'` and `verdict`. -/
def EndsAs (c c' : TcpClient) : Verdict → Prop
  | .proceed | .exitSuccess => OnlyShows c c'
  | .exitFailure =>
      OnlyShows c c' ∧
        ∃ displayName content, c'.log.getLast? = some (.output (.errFromServer displayName content))
  | .raise msg =>
      ∃ displayName, c'.log.getLast? = some (.sendTo c.serverAddr (TextMsg.err displayName (ascii msg)).encode)

namespace OnlyShows

variable {c c₁ c₂ : TcpClient}

theorem of_frame (hserver : c₁.serverAddr = c.serverAddr) (hlog : c₁.log = c.log) : OnlyShows c c₁ :=
  ⟨hserver, [], by rw [hlog, List.map_nil, List.append_nil]⟩

theorem emit (line : Output) : OnlyShows c (c.emit (.output line)) := ⟨rfl, [line], rfl⟩

theorem trans (h₁ : OnlyShows c c₁) (h₂ : OnlyShows c₁ c₂) : OnlyShows c c₂ := by
  obtain ⟨hserver₁, lines₁, hlog₁⟩ := h₁
  obtain ⟨hserver₂, lines₂, hlog₂⟩ := h₂
  exact ⟨hserver₂.trans hserver₁, lines₁ ++ lines₂, by rw [hlog₂, hlog₁, List.map_append, List.append_assoc]⟩

end OnlyShows

variable {c : TcpClient}

/-- What a handler writes after others that only showed lines is read against
the client before them. -/
theorem EndsAs.of_onlyShows {c₁ c' : TcpClient} {verdict : Verdict} (hbefore : OnlyShows c c₁)
    (h : EndsAs c₁ c' verdict) : EndsAs c c' verdict := by
  cases verdict with
  | proceed | exitSuccess => exact hbefore.trans h
  | exitFailure => exact ⟨hbefore.trans h.1, h.2⟩
  | raise msg =>
      obtain ⟨displayName, hlast⟩ := h
      exact ⟨displayName, hbefore.1 ▸ hlast⟩

theorem endsAs_sendErrMsgAndTerminate (errMsg : String) :
    EndsAs c (c.sendErrMsgAndTerminate errMsg).1 (c.sendErrMsgAndTerminate errMsg).2 :=
  ⟨c.userDisplayName, by rw [← buildErrMsg_encode]; exact List.getLast?_concat _⟩

theorem endsAs_processServerFromIsMsg {keyword : Bytes} {display : Bytes → Bytes → Output}
    {malformed : String} (frame : Bytes) :
    EndsAs c (processServerFromIsMsg keyword display malformed c frame).1
      (processServerFromIsMsg keyword display malformed c frame).2 := by
  unfold processServerFromIsMsg
  split
  · exact OnlyShows.emit _
  · exact endsAs_sendErrMsgAndTerminate _

theorem endsAs_processServerByeMsg (frame : Bytes) :
    EndsAs c (c.processServerByeMsg frame).1 (c.processServerByeMsg frame).2 := by
  unfold processServerByeMsg
  split
  · split_ifs
    · exact OnlyShows.of_frame rfl rfl
    · exact endsAs_sendErrMsgAndTerminate _
  · exact endsAs_sendErrMsgAndTerminate _

theorem endsAs_processServerReplyMsg (frame : Bytes) :
    EndsAs c (c.processServerReplyMsg frame).1 (c.processServerReplyMsg frame).2 := by
  rcases c.processServerReplyMsg_cases frame with
    ⟨errMsg, herr⟩ | ⟨result, content, hstate, hwaiting, hmatch, hlength⟩
  · rw [herr]
    exact endsAs_sendErrMsgAndTerminate _
  · rw [processServerReplyMsg_of_match hstate hwaiting hmatch hlength]
    exact ⟨rfl, [_], rfl⟩

/-- A well-formed BYE from the server ends the loop with success, a well-formed
ERR with failure after showing it; every other frame is handled as its
handler says. -/
theorem endsAs_processMessageFromServer (buffer frame : Bytes) :
    EndsAs c (c.processMessageFromServer buffer frame).1 (c.processMessageFromServer buffer frame).2 := by
  simp only [processMessageFromServer]
  split_ifs
  · exact endsAs_sendErrMsgAndTerminate _
  · have hends := endsAs_processServerByeMsg (c := c) frame
    generalize c.processServerByeMsg frame = result at hends ⊢
    rcases result with ⟨c', _ | _ | _ | _⟩ <;> exact hends
  · have hends : EndsAs c (c.processServerErrMsg frame).1 (c.processServerErrMsg frame).2 :=
      endsAs_processServerFromIsMsg frame
    have hshown : ∀ c', c.processServerErrMsg frame = (c', .proceed) →
        ∃ displayName content, c' = c.emit (.output (.errFromServer displayName content)) := by
      intro c' hproceed
      obtain ⟨displayName, content, -, -, -, heq⟩ := processServerErrMsg_proceed c (by rw [hproceed])
      rw [hproceed, Prod.mk.injEq] at heq
      exact ⟨displayName, content, heq.1⟩
    generalize c.processServerErrMsg frame = result at hends hshown ⊢
    rcases result with ⟨c', _ | _ | _ | _⟩
    · exact hends
    · exact hends
    · obtain ⟨displayName, content, rfl⟩ := hshown _ rfl
      exact ⟨hends, displayName, content, List.getLast?_concat _⟩
    · exact hends
  all_goals cases c.currentState <;>
    first
    | with_reducible exact endsAs_sendErrMsgAndTerminate _
    | with_reducible exact endsAs_processServerReplyMsg _
    | exact endsAs_processServerFromIsMsg _

theorem endsAs_andThen {result : TcpClient × Verdict} {k : TcpClient → TcpClient × Verdict}
    (h : EndsAs c result.1 result.2) (hk : ∀ c', EndsAs c' (k c').1 (k c').2) :
    EndsAs c (andThen result k).1 (andThen result k).2 := by
  obtain ⟨c₁, _ | _ | _ | _⟩ := result
  all_goals first | exact h | exact EndsAs.of_onlyShows h (hk c₁)

theorem endsAs_dispatchSegments (frames : List Bytes) :
    EndsAs c (c.dispatchSegments frames).1 (c.dispatchSegments frames).2 := by
  induction frames generalizing c with
  | nil => exact OnlyShows.of_frame rfl rfl
  | cons frame frames ih =>
      unfold dispatchSegments
      split_ifs
      · exact endsAs_sendErrMsgAndTerminate _
      · exact endsAs_andThen (endsAs_processMessageFromServer _ _) fun _ => ih

theorem endsAs_processFrames (buffer : Bytes) :
    EndsAs c (c.processFrames buffer).1 (c.processFrames buffer).2.2 := by
  obtain ⟨hdispatch, -⟩ := c.processFrames_dispatchStream buffer
  rw [congrArg Prod.fst hdispatch, congrArg Prod.snd hdispatch]
  refine endsAs_andThen (endsAs_dispatchSegments _) fun c' => ?_
  unfold checkTail
  split_ifs
  · exact endsAs_sendErrMsgAndTerminate _
  · exact OnlyShows.of_frame rfl rfl

/-- `EndsAs` read as the end of a wake, with `other₁` and `other₂` the wake's
other ways to throw. -/
theorem EndsAs.wake {c' : TcpClient} {verdict : Verdict} (h : EndsAs c c' verdict)
    (other₁ other₂ : String → Prop) :
    (verdict = .exitSuccess → ∃ lines : List Output, c'.log = c.log ++ lines.map .output) ∧
    (verdict = .exitFailure → ∃ displayName content,
      c'.log.getLast? = some (.output (.errFromServer displayName content))) ∧
    ∀ msg, verdict = .raise msg → other₁ msg ∨ other₂ msg ∨
      ∃ displayName, c'.log.getLast? = some (.sendTo c.serverAddr (TextMsg.err displayName (ascii msg)).encode) := by
  refine ⟨?_, ?_, fun msg => ?_⟩ <;> rintro rfl
  · exact h.2
  · exact h.2
  · exact .inr (.inr h)

theorem sendByeMsgToServer_getLast :
    c.sendByeMsgToServer.log.getLast? = some (.sendTo c.serverAddr (TextMsg.bye c.userDisplayName).encode) := by
  rw [← buildByeMsg_encode]
  exact List.getLast?_concat _

end TcpClient

/-- When every `send()` succeeds, a wake from a reachable state ends with success
only after lines for the user, with failure after an ERR from the server, and
throws `msg` only on a stdin error, after a BYE with `msg` empty, or after an ERR carrying `msg`. -/
theorem step_exit_discipline {args : Args} {s : TcpClient × Bytes} (h : Reachable args s)
    (e : Event) (henabled : e.enabled s.1) :
    ((step s e).2 = .exitSuccess →
      ∃ lines : List Output, (step s e).1.1.log = s.1.log ++ lines.map .output) ∧
    ((step s e).2 = .exitFailure →
      ∃ displayName content,
        (step s e).1.1.log.getLast? = some (.output (.errFromServer displayName content))) ∧
    ∀ msg, (step s e).2 = .raise msg →
      (e = .stdin .error ∧ (step s e).1.1.log = s.1.log) ∨
      (msg = "" ∧ (step s e).1.1.log.getLast? =
        some (.sendTo s.1.serverAddr (TextMsg.bye s.1.userDisplayName).encode)) ∨
      ∃ displayName, (step s e).1.1.log.getLast? =
        some (.sendTo s.1.serverAddr (TextMsg.err displayName (ascii msg)).encode) := by
  obtain ⟨c, buffer⟩ := s
  cases e with
  | stdin event =>
      rcases event with (_ | input) | _ | _
      · exact ⟨nofun, nofun, nofun⟩
      · refine ⟨?_, ?_, ?_⟩ <;> simp only [Tcp.step, TcpClient.processStdinEvent] <;> split <;> nofun
      · exact ⟨nofun, nofun, fun _ hmsg => .inr (.inl ⟨by cases hmsg; rfl,
          TcpClient.sendByeMsgToServer_getLast⟩)⟩
      · exact ⟨nofun, nofun, fun _ _ => .inl ⟨rfl, rfl⟩⟩
  | timerExpired =>
      have hwaiting : c.isWaitingForReply = true := by
        rw [← h.sessionInvariant.waitConsistent.timer_isSome]
        exact henabled
      have hdisarmed : TcpClient.OnlyShows c { c with timer := none } := .of_frame rfl rfl
      simp only [Tcp.step, TcpClient.processTimerEvent, hwaiting, if_true]
      exact (TcpClient.EndsAs.of_onlyShows hdisarmed
        (TcpClient.endsAs_sendErrMsgAndTerminate _)).wake _ _
  | sigint =>
      exact ⟨nofun, nofun, fun _ hmsg => .inr (.inl ⟨by cases hmsg; rfl,
        TcpClient.sendByeMsgToServer_getLast⟩)⟩
  | received bytes =>
      by_cases hbytes : bytes = []
      · subst hbytes
        exact ⟨fun _ => ⟨[], (List.append_nil _).symm⟩, nofun, nofun⟩
      · simp only [Tcp.step, TcpClient.processSocketEvent_of_ne_nil _ _ hbytes]
        exact (TcpClient.endsAs_processFrames (buffer ++ bytes)).wake _ _
  | recvFailed => exact (TcpClient.endsAs_sendErrMsgAndTerminate _).wake _ _

/-- The reply timer expiring after `/auth`: the client's last write is an ERR
with the timeout's text. -/
theorem exit_discipline_after_auth_timeout :
    ∃ displayName, (step authScenario .timerExpired).1.1.log.getLast? =
      some (.sendTo tcpArgs.serverAddr
        (TextMsg.err displayName (ascii "waited too long for the server's reply.")).encode) :=
  have hreach : Reachable tcpArgs authScenario := .step .init (by decide) (by decide)
  match (step_exit_discipline hreach .timerExpired (by decide)).2.2 _ rfl with
  | .inl ⟨hstdin, _⟩ => nomatch hstdin
  | .inr (.inl ⟨hempty, _⟩) => nomatch hempty
  | .inr (.inr herr) => herr

end IpkChat.Tcp
