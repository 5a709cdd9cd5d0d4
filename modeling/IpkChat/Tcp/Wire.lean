import IpkChat.Basic

namespace IpkChat.Tcp

/-! The text variant as `Tcp_client` writes and reads it, regexes `icase` in the "C" locale. -/

/-- `Tcp_client::s_END_OF_MESSAGE`. -/
def sEndOfMessage : Bytes := ascii "\r\n"

def sBytesInEndOfMessage : Nat := 2

/-- `Tcp_client::s_MAX_MSG_SIZE`. -/
def sMaxMsgSize : Nat :=
  "MSG FROM".length + " ".length + sDisplayNameMaxLength + " IS ".length + sMsgContentMaxLength +
    sBytesInEndOfMessage

theorem sMaxMsgSize_eq : sMaxMsgSize = 60035 := rfl

theorem sEndOfMessage_eq : sEndOfMessage = [13, 10] := rfl

/-! Case. -/

/-- `std::toupper` in the "C" locale. -/
def toUpper (b : UInt8) : UInt8 := if 97 ≤ b ∧ b ≤ 122 then b - 32 else b

/-- `std::tolower` in the "C" locale, through which `icase` compares. -/
def toLower (b : UInt8) : UInt8 := if 65 ≤ b ∧ b ≤ 90 then b + 32 else b

/-- The same bytes up to ASCII case: an `icase` literal matches, `strcasecmp`
returns 0. -/
def eqIgnoreCase (a b : Bytes) : Bool := a.map toLower == b.map toLower

theorem eqIgnoreCase_refl (a : Bytes) : eqIgnoreCase a a = true := by
  simp [eqIgnoreCase]

theorem length_eq_of_eqIgnoreCase {a b : Bytes} (h : eqIgnoreCase a b = true) :
    a.length = b.length := by
  simpa using congrArg List.length (beq_iff_eq.mp h)

/-! The regexes. -/

/-- An `icase` literal of a pattern at the front of `s`: the bytes after it. -/
def matchKeyword (keyword s : Bytes) : Option Bytes :=
  if eqIgnoreCase (s.take keyword.length) keyword then some (s.drop keyword.length) else none

/-- A group `([class]+)` at the front of `s`, as the longest run of the class,
and the bytes after it. -/
def takeRun (p : UInt8 → Bool) (s : Bytes) : Option (Bytes × Bytes) :=
  if (s.takeWhile p).isEmpty then none else some (s.takeWhile p, s.dropWhile p)

/-- `std::regex_match` against `keyword + getPrintableChars() + " IS " +
getPrintableCharsSpaceLf() + s_END_OF_MESSAGE`, the pattern of `getMsgMsgRegex()`
and `getErrMsgRegex()`: its two groups. -/
def matchFromIsRegex (keyword s : Bytes) : Option (Bytes × Bytes) := do
  let rest ← matchKeyword keyword s
  let (displayName, rest) ← takeRun isPrintableChar rest
  let rest ← matchKeyword (ascii " IS ") rest
  let (content, rest) ← takeRun isPrintableCharSpaceLf rest
  if rest = sEndOfMessage then some (displayName, content) else none

/-- `std::regex_match` against `getMsgMsgRegex()`. -/
def matchMsgMsgRegex (s : Bytes) : Option (Bytes × Bytes) := matchFromIsRegex (ascii "MSG FROM ") s

/-- `std::regex_match` against `getErrMsgRegex()`. -/
def matchErrMsgRegex (s : Bytes) : Option (Bytes × Bytes) := matchFromIsRegex (ascii "ERR FROM ") s

/-- `std::regex_match` against `getByeMsgRegex()`: its group. -/
def matchByeMsgRegex (s : Bytes) : Option Bytes := do
  let rest ← matchKeyword (ascii "BYE FROM ") s
  let (displayName, rest) ← takeRun isPrintableChar rest
  if rest = sEndOfMessage then some displayName else none

/-- The group `(OK|NOK)`.  ECMAScript tries `OK` first; the alternatives start
with different letters, so at most one of them matches. -/
def matchReplyResult (s : Bytes) : Option (Bytes × Bytes) :=
  match matchKeyword (ascii "OK") s with
  | some rest => some (s.take 2, rest)
  | none =>
      match matchKeyword (ascii "NOK") s with
      | some rest => some (s.take 3, rest)
      | none => none

/-- `std::regex_match` against `getReplyMsgRegex()`: its two groups. -/
def matchReplyMsgRegex (s : Bytes) : Option (Bytes × Bytes) := do
  let rest ← matchKeyword (ascii "REPLY ") s
  let (result, rest) ← matchReplyResult rest
  let rest ← matchKeyword (ascii " IS ") rest
  let (content, rest) ← takeRun isPrintableCharSpaceLf rest
  if rest = sEndOfMessage then some (result, content) else none

/-- `Tcp_client::getServerMsgType`: the first five bytes, upper-cased, against
the keywords. -/
def getServerMsgType (msgFromServer : Bytes) : ProtocolMsgType :=
  if 3 ≤ msgFromServer.length then
    let pre := (msgFromServer.take "REPLY".length).map toUpper
    if (ascii "MSG").isPrefixOf pre then .mMsg
    else if (ascii "ERR").isPrefixOf pre then .mErr
    else if (ascii "BYE").isPrefixOf pre then .mBye
    else if (ascii "REPLY").isPrefixOf pre then .mReply
    else .mUnknown
  else .mUnknown

/-- `std::string::find(s_END_OF_MESSAGE)`: the index of the first `\r\n`. -/
def findEndOfMessage : Bytes → Option Nat
  | b :: b' :: rest =>
      if b = 13 ∧ b' = 10 then some 0 else (findEndOfMessage (b' :: rest)).map (· + 1)
  | _ => none

/-! The frames of a stream: each prefix up to a first `\r\n`, and the unterminated tail. -/

/-- Put `b` in front of the first segment, or of the tail if there is none. -/
def consFront (b : UInt8) : List Bytes × Bytes → List Bytes × Bytes
  | (frame :: frames, tail) => ((b :: frame) :: frames, tail)
  | ([], tail) => ([], b :: tail)

def segments : Bytes → List Bytes × Bytes
  | b :: b' :: rest =>
      if b = 13 ∧ b' = 10 then (sEndOfMessage :: (segments rest).1, (segments rest).2)
      else consFront b (segments (b' :: rest))
  | s => ([], s)

theorem findEndOfMessage_cons_cons (b b' : UInt8) (rest : Bytes) :
    findEndOfMessage (b :: b' :: rest) =
      if b = 13 ∧ b' = 10 then some 0 else (findEndOfMessage (b' :: rest)).map (· + 1) := rfl

theorem segments_cons_cons (b b' : UInt8) (rest : Bytes) :
    segments (b :: b' :: rest) =
      if b = 13 ∧ b' = 10 then (sEndOfMessage :: (segments rest).1, (segments rest).2)
      else consFront b (segments (b' :: rest)) := rfl

/-- A stream of fewer than two bytes is all tail. -/
theorem segments_short {t : Bytes} (ht : ∀ b b' rest, t = b :: b' :: rest → False) :
    segments t = ([], t) := by
  rcases t with _ | ⟨b, _ | ⟨b', rest⟩⟩
  · rfl
  · rfl
  · exact absurd rfl (ht b b' rest)

/-! The literals and groups. -/

theorem matchKeyword_eq_some {keyword s rest : Bytes} :
    matchKeyword keyword s = some rest ↔
      ∃ spelling, eqIgnoreCase spelling keyword = true ∧ s = spelling ++ rest := by
  constructor
  · intro h
    unfold matchKeyword at h
    split_ifs at h with hcase
    cases h
    exact ⟨_, hcase, (List.take_append_drop _ _).symm⟩
  · rintro ⟨spelling, hcase, rfl⟩
    simp [matchKeyword, ← length_eq_of_eqIgnoreCase hcase, hcase]

theorem matchKeyword_append (keyword rest : Bytes) :
    matchKeyword keyword (keyword ++ rest) = some rest :=
  matchKeyword_eq_some.mpr ⟨keyword, eqIgnoreCase_refl _, rfl⟩

section Run

variable {p : UInt8 → Bool}

theorem takeRun_append {run rest : Bytes} (hne : run ≠ []) (hclass : ∀ x ∈ run, p x)
    (hstop : ∀ x ∈ rest.head?, p x = false) : takeRun p (run ++ rest) = some (run, rest) := by
  have hrest : rest.takeWhile p = [] ∧ rest.dropWhile p = rest := by
    cases rest with
    | nil => simp
    | cons x xs =>
        have hx : p x = false := hstop x rfl
        simp [List.takeWhile_cons_of_neg, List.dropWhile_cons_of_neg, hx]
  simp [takeRun, List.takeWhile_append_of_pos hclass, List.dropWhile_append_of_pos hclass, hrest,
    hne]

theorem takeRun_eq_some {s run rest : Bytes} (h : takeRun p s = some (run, rest)) :
    s = run ++ rest ∧ run ≠ [] ∧ ∀ x ∈ run, p x := by
  unfold takeRun at h
  split_ifs at h with hempty
  cases h
  exact ⟨(List.takeWhile_append_dropWhile _ _).symm, by simpa using hempty,
    fun _ hx => List.mem_takeWhile_imp hx⟩

end Run

/-! The end of a message. -/

theorem findEndOfMessage_eq_some {s : Bytes} {pos : Nat} (h : findEndOfMessage s = some pos) :
    pos + 2 ≤ s.length ∧ s.take (pos + 2) = s.take pos ++ sEndOfMessage ∧
      segments s = (s.take (pos + 2) :: (segments (s.drop (pos + 2))).1,
        (segments (s.drop (pos + 2))).2) := by
  induction s using findEndOfMessage.induct generalizing pos with
  | case1 b b' rest hend =>
      rw [findEndOfMessage_cons_cons, if_pos hend, Option.some.injEq] at h
      subst h
      obtain ⟨rfl, rfl⟩ := hend
      simp [segments_cons_cons, sEndOfMessage_eq]
  | case2 b b' rest hend ih =>
      rw [findEndOfMessage_cons_cons, if_neg hend, Option.map_eq_some'] at h
      obtain ⟨pos, hpos, rfl⟩ := h
      obtain ⟨hlen, htake, hsegments⟩ := ih hpos
      refine ⟨by simp at hlen ⊢; omega, by simp [htake], ?_⟩
      rw [segments_cons_cons, if_neg hend, hsegments]
      rfl
  | case3 t ht =>
      rcases t with _ | ⟨b, _ | ⟨b', rest⟩⟩
      all_goals simp [findEndOfMessage] at h
      exact absurd rfl (ht b b' rest)

theorem findEndOfMessage_eq_none {s : Bytes} (h : findEndOfMessage s = none) :
    segments s = ([], s) := by
  induction s using findEndOfMessage.induct with
  | case1 b b' rest hend => simp [findEndOfMessage_cons_cons, if_pos hend] at h
  | case2 b b' rest hend ih =>
      rw [findEndOfMessage_cons_cons, if_neg hend, Option.map_eq_none'] at h
      rw [segments_cons_cons, if_neg hend, ih h]
      rfl
  | case3 t ht => exact segments_short ht

/-- After a prefix without `\r\n`, the first `\r\n` ends at the earliest one
byte past the prefix. -/
theorem findEndOfMessage_append {t rest : Bytes} {pos : Nat} (ht : findEndOfMessage t = none)
    (h : findEndOfMessage (t ++ rest) = some pos) : t.length ≤ pos + 1 := by
  induction t using findEndOfMessage.induct generalizing pos with
  | case1 b b' r hend => simp [findEndOfMessage_cons_cons, if_pos hend] at ht
  | case2 b b' r hend ih =>
      rw [findEndOfMessage_cons_cons, if_neg hend, Option.map_eq_none'] at ht
      rw [List.cons_append, List.cons_append, findEndOfMessage_cons_cons, if_neg hend,
        Option.map_eq_some'] at h
      obtain ⟨pos, hpos, rfl⟩ := h
      have := ih ht hpos
      simp only [List.length_cons] at this ⊢
      omega
  | case3 t ht' =>
      rcases t with _ | ⟨b, _ | ⟨b', r⟩⟩
      · simp
      · simp
      · exact absurd rfl (ht' b b' r)

theorem segments_snd {s : Bytes} (h : (segments s).1 = []) : (segments s).2 = s := by
  induction s using segments.induct with
  | case1 b b' rest hend _ => simp [segments_cons_cons, if_pos hend] at h
  | case2 b b' rest hend ih =>
      rw [segments_cons_cons, if_neg hend] at h ⊢
      rcases hs : segments (b' :: rest) with ⟨_ | ⟨frame, frames⟩, tail⟩
      · rw [hs] at ih
        simp only [consFront, List.cons.injEq, true_and]
        exact ih rfl
      · simp [hs, consFront] at h
  | case3 t ht => rw [segments_short ht]

/-- The tail of a stream holds no `\r\n`. -/
theorem findEndOfMessage_segments_snd (s : Bytes) : findEndOfMessage (segments s).2 = none := by
  induction s using segments.induct with
  | case1 b b' rest hend ih => rwa [segments_cons_cons, if_pos hend]
  | case2 b b' rest hend ih =>
      rw [segments_cons_cons, if_neg hend]
      rcases hs : segments (b' :: rest) with ⟨_ | ⟨frame, frames⟩, tail⟩
      · have htail : tail = b' :: rest := by simpa [hs] using segments_snd (s := b' :: rest)
        rw [hs] at ih
        subst htail
        simp [consFront, findEndOfMessage_cons_cons, if_neg hend, ih]
      · rw [hs] at ih
        exact ih
  | case3 t ht =>
      rw [segments_short ht]
      rcases t with _ | ⟨b, _ | ⟨b', rest⟩⟩
      · rfl
      · rfl
      · exact absurd rfl (ht b b' rest)

theorem segments_append (a b : Bytes) :
    segments (a ++ b) =
      ((segments a).1 ++ (segments ((segments a).2 ++ b)).1,
        (segments ((segments a).2 ++ b)).2) := by
  induction a using segments.induct with
  | case1 x x' rest hend ih =>
      rw [List.cons_append, List.cons_append, segments_cons_cons, if_pos hend, ih,
        segments_cons_cons, if_pos hend]
      rfl
  | case2 x x' rest hend ih =>
      rw [List.cons_append, List.cons_append, segments_cons_cons, if_neg hend, ← List.cons_append,
        ih, segments_cons_cons, if_neg hend]
      rcases hs : segments (x' :: rest) with ⟨_ | ⟨frame, frames⟩, tail⟩
      · have htail : tail = x' :: rest := by simpa [hs] using segments_snd (s := x' :: rest)
        subst htail
        simp only [consFront, List.nil_append, List.cons_append]
        rw [segments_cons_cons, if_neg hend]
        rfl
      · rfl
  | case3 t ht => simp [segments_short ht]

/-! The type `processMessageFromServer` reads. -/

theorem ascii_msg : ascii "MSG" = [77, 83, 71] := rfl
theorem ascii_err : ascii "ERR" = [69, 82, 82] := rfl
theorem ascii_bye : ascii "BYE" = [66, 89, 69] := rfl
theorem ascii_reply : ascii "REPLY" = [82, 69, 80, 76, 89] := rfl
theorem length_reply : "REPLY".length = 5 := rfl
theorem toUpper_cr : toUpper 13 = 13 := rfl

/-- No keyword reads over a `\r` among the first three bytes. -/
theorem getServerMsgType_cr {pre : Bytes} (hpre : pre.length ≤ 2) (rest : Bytes) :
    getServerMsgType (pre ++ 13 :: rest) = .mUnknown := by
  simp only [getServerMsgType, ascii_msg, ascii_err, ascii_bye, ascii_reply, length_reply]
  rcases pre with _ | ⟨a, _ | ⟨b, _ | ⟨e, pre⟩⟩⟩
  all_goals rcases rest with _ | ⟨x, _ | ⟨y, _ | ⟨z, rest⟩⟩⟩
  all_goals simp [toUpper_cr] at hpre ⊢

/-- The type read from a buffer that starts with a whole frame is the frame's
own: a frame of five bytes or more shares the five bytes read, and a shorter one
has its `\r` among the first three. -/
theorem getServerMsgType_append (pre rest : Bytes) :
    getServerMsgType (pre ++ sEndOfMessage ++ rest) = getServerMsgType (pre ++ sEndOfMessage) := by
  by_cases hpre : pre.length ≤ 2
  · rw [sEndOfMessage_eq, List.append_assoc, List.cons_append, getServerMsgType_cr hpre,
      getServerMsgType_cr hpre]
  · have h5 : "REPLY".length ≤ (pre ++ sEndOfMessage).length := by
      simp [sEndOfMessage_eq, length_reply]; omega
    have h3 : 3 ≤ (pre ++ sEndOfMessage).length := by simp [sEndOfMessage_eq]; omega
    unfold getServerMsgType
    rw [if_pos h3, if_pos (by simp only [List.length_append] at h3 ⊢; omega),
      List.take_append_of_le_length h5]

end IpkChat.Tcp
