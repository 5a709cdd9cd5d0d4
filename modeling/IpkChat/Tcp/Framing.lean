import IpkChat.Tcp.Client

namespace IpkChat.Tcp

/-! A stream read as its segments, against `processSocketEvent` over any `recv` pieces. -/

namespace TcpClient

/-- Go on with `k` when a handler lets the loop continue. -/
def andThen (result : TcpClient × Verdict) (k : TcpClient → TcpClient × Verdict) :
    TcpClient × Verdict :=
  match result with
  | (c, .proceed) => k c
  | result => result

@[simp] theorem andThen_proceed (c : TcpClient) (k : TcpClient → TcpClient × Verdict) :
    andThen (c, .proceed) k = k c := rfl

theorem andThen_of_ne {result : TcpClient × Verdict} (h : result.2 ≠ .proceed)
    (k : TcpClient → TcpClient × Verdict) : andThen result k = result := by
  obtain ⟨c, _ | _ | _ | _⟩ := result <;> first | rfl | exact absurd rfl h

theorem andThen_assoc (result : TcpClient × Verdict) (k₁ k₂ : TcpClient → TcpClient × Verdict) :
    andThen (andThen result k₁) k₂ = andThen result (fun c => andThen (k₁ c) k₂) := by
  obtain ⟨c, _ | _ | _ | _⟩ := result <;> rfl

/-- What the length checks of `processSocketEvent` do to the unterminated tail. -/
def checkTail (c : TcpClient) (tail : Bytes) : TcpClient × Verdict :=
  if sMaxMsgSize ≤ tail.length then c.sendErrMsgAndTerminate "too long message from server."
  else (c, .proceed)

/-- The segments processed in order, each with its type read from itself. -/
def dispatchSegments (c : TcpClient) : List Bytes → TcpClient × Verdict
  | [] => (c, .proceed)
  | frame :: frames =>
      if sMaxMsgSize < frame.length then c.sendErrMsgAndTerminate "too long message from server."
      else andThen (c.processMessageFromServer frame frame) (fun c => c.dispatchSegments frames)

/-- The reading of a whole stream: each segment in order, then the tail. -/
def dispatchStream (c : TcpClient) (stream : Bytes) : TcpClient × Verdict :=
  andThen (c.dispatchSegments (segments stream).1) (fun c => c.checkTail (segments stream).2)

/-- Socket events, one per `recv` result, while the loop goes on. -/
def receiveAll (c : TcpClient) (msgFromServer : Bytes) : List Bytes → TcpClient × Bytes × Verdict
  | [] => (c, msgFromServer, .proceed)
  | received :: rest =>
      match c.processSocketEvent msgFromServer received with
      | (c, msgFromServer, .proceed) => c.receiveAll msgFromServer rest
      | result => result

theorem dispatchSegments_append (c : TcpClient) (frames frames' : List Bytes) :
    c.dispatchSegments (frames ++ frames') =
      andThen (c.dispatchSegments frames) (fun c => c.dispatchSegments frames') := by
  induction frames generalizing c with
  | nil => rfl
  | cons frame frames ih =>
      simp only [List.cons_append, dispatchSegments, List.append_eq]
      split_ifs
      · exact (andThen_of_ne (by simp) _).symm
      · simp only [andThen_assoc, ih]

/-- A stream whose first bytes are a tail of `s_MAX_MSG_SIZE` bytes or more is
rejected before anything is processed. -/
theorem dispatchStream_long (c : TcpClient) {tail : Bytes} (htail : findEndOfMessage tail = none)
    (hlong : sMaxMsgSize ≤ tail.length) (rest : Bytes) :
    c.dispatchStream (tail ++ rest) = c.sendErrMsgAndTerminate "too long message from server." := by
  cases hfind : findEndOfMessage (tail ++ rest) with
  | none =>
      have hlen : tail.length ≤ (tail ++ rest).length := by simp
      simp only [dispatchStream, findEndOfMessage_eq_none hfind, dispatchSegments, andThen_proceed,
        checkTail, if_pos (hlong.trans hlen)]
  | some pos =>
      obtain ⟨hlen, -, hsegments⟩ := findEndOfMessage_eq_some hfind
      have hframe : sMaxMsgSize < ((tail ++ rest).take (pos + 2)).length := by
        have := findEndOfMessage_append htail hfind
        simp only [List.length_take]
        omega
      simp only [dispatchStream, hsegments, dispatchSegments, if_pos hframe]
      exact andThen_of_ne (by simp) _

/-- A frame is processed as if the buffer held nothing after it. -/
theorem processMessageFromServer_frame (c : TcpClient) (pre rest : Bytes) :
    c.processMessageFromServer (pre ++ sEndOfMessage ++ rest) (pre ++ sEndOfMessage) =
      c.processMessageFromServer (pre ++ sEndOfMessage) (pre ++ sEndOfMessage) := by
  simp only [processMessageFromServer, getServerMsgType_append]

/-- The loop of `processSocketEvent` over a buffer is `dispatchStream` of the
buffer, and leaves the buffer's tail when the loop goes on. -/
theorem processFrames_dispatchStream (c : TcpClient) (buffer : Bytes) :
    ((c.processFrames buffer).1, (c.processFrames buffer).2.2) = c.dispatchStream buffer ∧
      ((c.processFrames buffer).2.2 = .proceed →
        (c.processFrames buffer).2.1 = (segments buffer).2) := by
  induction buffer using WellFounded.induction (measure List.length).wf generalizing c with
  | h buffer ih =>
      unfold processFrames
      split
      · rename_i pos hfind
        obtain ⟨hlen, htake, hsegments⟩ := findEndOfMessage_eq_some hfind
        simp only [sBytesInEndOfMessage]
        split_ifs with hlong
        · simp only [dispatchStream, hsegments, dispatchSegments, if_pos hlong]
          exact ⟨(andThen_of_ne (by simp) _).symm, by simp⟩
        · have hbuffer : buffer = buffer.take pos ++ sEndOfMessage ++ buffer.drop (pos + 2) := by
            rw [← htake, List.take_append_drop]
          have hframe : c.processMessageFromServer buffer (buffer.take (pos + 2)) =
              c.processMessageFromServer (buffer.take (pos + 2)) (buffer.take (pos + 2)) := by
            have := processMessageFromServer_frame c (buffer.take pos) (buffer.drop (pos + 2))
            rwa [← hbuffer, ← htake] at this
          simp only [dispatchStream, hsegments, dispatchSegments, if_neg hlong, andThen_assoc,
            hframe]
          have hshorter : (buffer.drop (pos + 2)).length < buffer.length := by
            simp only [List.length_drop]
            omega
          rcases c.processMessageFromServer (buffer.take (pos + 2)) (buffer.take (pos + 2)) with
            ⟨c', _ | _ | _ | _⟩
          · exact ⟨rfl, by simp⟩
          · exact ⟨rfl, by simp⟩
          · exact ih _ hshorter c'
          · exact ⟨rfl, by simp⟩
      · rename_i hfind
        simp only [dispatchStream, findEndOfMessage_eq_none hfind, dispatchSegments,
          andThen_proceed, checkTail]
        split_ifs
        · exact ⟨rfl, by simp⟩
        · exact ⟨rfl, fun _ => rfl⟩

theorem processSocketEvent_of_ne_nil (c : TcpClient) (buffer : Bytes) {received : Bytes}
    (h : received ≠ []) : c.processSocketEvent buffer received = c.processFrames (buffer ++ received) :=
  if_neg h

/-- The reading of a stream after a prefix goes on from the prefix's segments,
with the prefix's tail in front of the rest. -/
theorem dispatchStream_append (c : TcpClient) (stream rest : Bytes) :
    c.dispatchStream (stream ++ rest) =
      andThen (c.dispatchSegments (segments stream).1)
        (fun c => c.dispatchStream ((segments stream).2 ++ rest)) := by
  unfold dispatchStream
  rw [segments_append stream rest, dispatchSegments_append, andThen_assoc]

/-- Fed in any nonempty pieces from a buffer that holds an unterminated tail,
the loop ends as `dispatchStream` of the buffer and the pieces. -/
theorem receiveAll_dispatchStream (c : TcpClient) (tail : Bytes) (chunks : List Bytes)
    (htail : findEndOfMessage tail = none) (hshort : tail.length < sMaxMsgSize)
    (hchunks : ∀ chunk ∈ chunks, chunk ≠ []) :
    ((c.receiveAll tail chunks).1, (c.receiveAll tail chunks).2.2) =
        c.dispatchStream (tail ++ chunks.flatten) ∧
      ((c.receiveAll tail chunks).2.2 = .proceed →
        (c.receiveAll tail chunks).2.1 = (segments (tail ++ chunks.flatten)).2) := by
  induction chunks generalizing c tail with
  | nil =>
      simp [receiveAll, dispatchStream, findEndOfMessage_eq_none htail, dispatchSegments, checkTail,
        Nat.not_le.mpr hshort]
  | cons chunk chunks ih =>
      have hchunk := hchunks chunk (List.mem_cons_self _ _)
      have hstream : tail ++ (chunk :: chunks).flatten = tail ++ chunk ++ chunks.flatten := by simp
      obtain ⟨hdispatch, hbuffer⟩ := processFrames_dispatchStream c (tail ++ chunk)
      rw [dispatchStream] at hdispatch
      rw [receiveAll, processSocketEvent_of_ne_nil _ _ hchunk, hstream,
        dispatchStream_append c (tail ++ chunk)]
      rcases hframes : c.processFrames (tail ++ chunk) with ⟨c₁, buffer₁, verdict₁⟩
      rw [hframes] at hdispatch hbuffer
      rcases hsegments : c.dispatchSegments (segments (tail ++ chunk)).1 with ⟨c', verdict⟩
      rw [hsegments] at hdispatch
      by_cases hproceed : verdict = .proceed
      · subst hproceed
        rw [andThen_proceed] at hdispatch ⊢
        unfold checkTail at hdispatch
        split_ifs at hdispatch with hlong
        · rw [dispatchStream_long c' (findEndOfMessage_segments_snd _) hlong]
          simp only [sendErrMsgAndTerminate, Prod.mk.injEq] at hdispatch
          obtain ⟨rfl, rfl⟩ := hdispatch
          exact ⟨rfl, by simp⟩
        · simp only [Prod.mk.injEq] at hdispatch
          obtain ⟨rfl, rfl⟩ := hdispatch
          obtain rfl : buffer₁ = (segments (tail ++ chunk)).2 := hbuffer rfl
          obtain ⟨ih₁, ih₂⟩ := ih c₁ _ (findEndOfMessage_segments_snd _) (Nat.lt_of_not_le hlong)
            (fun chunk h => hchunks chunk (List.mem_cons_of_mem _ h))
          refine ⟨ih₁, fun h => (ih₂ h).trans ?_⟩
          rw [segments_append (tail ++ chunk)]
      · rw [andThen_of_ne hproceed] at hdispatch ⊢
        simp only [Prod.mk.injEq] at hdispatch
        obtain ⟨rfl, rfl⟩ := hdispatch
        rcases verdict₁ with _ | _ | _ | _
        all_goals first | exact absurd rfl hproceed | exact ⟨rfl, by simp⟩

end TcpClient

/-- Whatever pieces `recv` cuts the stream into, `processSocketEvent` ends as
`dispatchStream` does, each segment typed by itself; and a buffer that starts
with a frame is typed as that frame. -/
theorem receive_any_partition (c : TcpClient) (chunks : List Bytes)
    (hchunks : ∀ chunk ∈ chunks, chunk ≠ []) :
    ((c.receiveAll [] chunks).1, (c.receiveAll [] chunks).2.2) = c.dispatchStream chunks.flatten ∧
      ((c.receiveAll [] chunks).2.2 = .proceed →
        (c.receiveAll [] chunks).2.1 = (segments chunks.flatten).2) ∧
      ∀ pre rest : Bytes,
        getServerMsgType (pre ++ sEndOfMessage ++ rest) = getServerMsgType (pre ++ sEndOfMessage) :=
  ⟨(c.receiveAll_dispatchStream [] chunks rfl (by decide) hchunks).1,
    (c.receiveAll_dispatchStream [] chunks rfl (by decide) hchunks).2, getServerMsgType_append⟩

/-- `-t tcp -s 127.0.0.1` with the default port. -/
def tcpArgs : Args := { serverAddr := ⟨0x7F000001, 4567⟩ }

/-- The REPLY and MSG of scenario A received in two pieces that cut the first
`\r\n`. -/
def scenarioChunks : List Bytes :=
  [ascii "REPLY OK IS Authenticated.\r", ascii "\nMSG FROM bob IS hi alice\r\n"]

theorem receive_any_partition_scenario :
    (∀ chunk ∈ scenarioChunks, chunk ≠ []) ∧
      ((((TcpClient.init tcpArgs).receiveAll [] scenarioChunks).1,
          ((TcpClient.init tcpArgs).receiveAll [] scenarioChunks).2.2) =
          (TcpClient.init tcpArgs).dispatchStream scenarioChunks.flatten ∧
        (((TcpClient.init tcpArgs).receiveAll [] scenarioChunks).2.2 = .proceed →
          ((TcpClient.init tcpArgs).receiveAll [] scenarioChunks).2.1 =
            (segments scenarioChunks.flatten).2) ∧
        ∀ pre rest : Bytes,
          getServerMsgType (pre ++ sEndOfMessage ++ rest) = getServerMsgType (pre ++ sEndOfMessage)) :=
  ⟨by decide, receive_any_partition _ _ (by decide)⟩

end IpkChat.Tcp
