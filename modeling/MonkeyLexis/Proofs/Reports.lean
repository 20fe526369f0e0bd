import MonkeyLexis.IllegalPolicy
import MonkeyLexis.Proofs.Registers

/-!
# What is reported of a source

The scanner reports an illegal byte before its token is made, from the registers as they are in the
middle of a step, and a token once it is made. Here all reports are read off the finished token list
instead: each token of the list says by itself what was reported of it, in the source that it was
found in.

A scanner that stops at an illegal token reports what the other one reports up to that token. Only
the front end closes the reports of a source, and only if it hands back tokens.
-/

namespace MonkeyLexis

/-- An event as an observer gets it. -/
structure Report where
  level : Level
  reporter : Reporter
  message : String
deriving DecidableEq

def Event.report (event : Event) : Report :=
  { level := event.level, reporter := event.reporter, message := event.message }

@[simp]
theorem Event.report_illegalByte (byte : Byte) (place : Position) :
    (illegalByte byte place).report =
      { level := .debug
        reporter := .scanner
        message :=
          "illegal byte 0x" ++ String.ofList (Text.hexPair byte) ++ " at offset "
            ++ toString place.offset ++ " (line " ++ toString (place.line + 1) ++ ", column "
            ++ toString (place.column + 1) ++ ")" } := rfl

@[simp]
theorem Event.report_scanned (token : Token) :
    (scanned token).report =
      { level := .trace
        reporter := .scanner
        message :=
          "scanned " ++ token.display ++ " at offset " ++ toString token.start.offset } := rfl

@[simp]
theorem Event.report_completed (tokenCount byteCount : Nat) :
    (completed tokenCount byteCount).report =
      { level := .debug
        reporter := .frontEnd
        message :=
          "lexed " ++ toString tokenCount ++ " tokens from " ++ toString byteCount
            ++ " bytes" } := rfl

def Logged.reports {Result : Type} (logged : Logged Result) : List Report :=
  logged.events.map Event.report

@[simp]
theorem Logged.reports_map {Source Target : Type} (change : Source → Target)
    (logged : Logged Source) : (logged.map change).reports = logged.reports := rfl

@[simp]
theorem Logged.reports_after {Result : Type} (logged : Logged Result) (events : List Event) :
    (logged.after events).reports = events.map Event.report ++ logged.reports :=
  List.map_append

/-! ### Reports read off tokens -/

namespace Token

/-- What is reported before an illegal token: the byte of `source` at which the token starts. -/
def warnings (source : List Byte) (token : Token) : List Report :=
  if token.isIllegal then
    source[token.start.offset]?.toList.map fun byte =>
      { level := .debug
        reporter := .scanner
        message :=
          "illegal byte 0x" ++ String.ofList (Text.hexPair byte) ++ " at offset "
            ++ toString token.start.offset ++ " (line " ++ toString (token.start.line + 1)
            ++ ", column " ++ toString (token.start.column + 1) ++ ")" }
  else
    []

def reports (source : List Byte) (token : Token) : List Report :=
  token.warnings source ++
    [{ level := .trace
       reporter := .scanner
       message :=
        "scanned " ++ token.display ++ " at offset " ++ toString token.start.offset }]

end Token

def reportsOf (source : List Byte) (tokens : List Token) : List Report :=
  tokens.flatMap (Token.reports source)

/-- The tokens up to the first illegal one and with it, or all tokens if none is illegal. -/
def upToIllegal : List Token → List Token
  | [] => []
  | token :: tokens => if token.isIllegal then [token] else token :: upToIllegal tokens

/-- How the front end closes the reports of a source. -/
def closingReports (source : List Byte) : Except IllegalCharacter (List Token) → List Report
  | .error _ => []
  | .ok tokens =>
      [{ level := .debug
         reporter := .frontEnd
         message :=
          "lexed " ++ toString tokens.length ++ " tokens from " ++ toString source.length
            ++ " bytes" }]

@[simp]
theorem reportsOf_cons (source : List Byte) (token : Token) (tokens : List Token) :
    reportsOf source (token :: tokens) = token.reports source ++ reportsOf source tokens := rfl

theorem upToIllegal_isPrefix (tokens : List Token) : upToIllegal tokens <+: tokens := by
  induction tokens with
  | nil => exact List.prefix_rfl
  | cons token tokens ih =>
      by_cases illegal : token.isIllegal = true
      · simp [upToIllegal, illegal]
      · simpa [upToIllegal, illegal] using ih

theorem reportsOf_isPrefix {front tokens : List Token} (source : List Byte)
    (isFront : front <+: tokens) : reportsOf source front <+: reportsOf source tokens := by
  rcases isFront with ⟨back, rfl⟩
  simp [reportsOf]

/-! ### Reports of a cursor -/

namespace Cursor

variable {source : List Byte} {cursor : Cursor}

def StandsIn (source : List Byte) (cursor : Cursor) : Prop :=
  source.drop cursor.position.offset = cursor.rest

namespace StandsIn

theorem start (source : List Byte) : (start source).StandsIn source := rfl

theorem skip (stands : cursor.StandsIn source) (count : Nat) :
    (cursor.skip count).StandsIn source := by
  simp only [StandsIn] at stands ⊢
  by_cases inside : count ≤ cursor.rest.length
  · simp [Cursor.skip, Position.offset_passAll, ← List.drop_drop, stands, inside]
  · have atEnd : cursor.rest.length ≤ count := by omega
    simp [Cursor.skip, Position.offset_passAll, ← List.drop_drop, stands, atEnd]

theorem next (stands : cursor.StandsIn source) : cursor.scan.next.StandsIn source := by
  cases found : cursor.skipBlanks.rest with
  | nil =>
      rw [scan_of_nil found]
      exact stands.skip _
  | cons byte rest =>
      rw [scan_of_cons found]
      exact (stands.skip _).skip _

/-- An illegal token starts at a byte of the source, and that byte is the one that was reported. -/
theorem reports_scan (stands : cursor.StandsIn source) :
    cursor.scan.events.map Event.report = cursor.scan.token.reports source ∧
      (cursor.scan.token.isIllegal = true →
        cursor.scan.token.start.offset < source.length) := by
  cases found : cursor.skipBlanks.rest with
  | nil =>
      rw [scan_of_nil found]
      exact ⟨rfl, fun illegal => absurd illegal Bool.false_ne_true⟩
  | cons byte rest =>
      have ahead : source.drop cursor.skipBlanks.position.offset = byte :: rest :=
        Eq.trans (stands.skip _) found
      have inside : source[cursor.skipBlanks.position.offset]? = some byte := by
        rw [← List.head?_drop, ahead]
        rfl
      rw [scan_of_cons found]
      refine ⟨?_, fun _ => (List.getElem?_eq_some_iff.mp inside).1⟩
      by_cases legal : ∀ bad, Lexeme.atHead byte rest ≠ .illegal bad
      · have notIllegal : ¬(Lexeme.atHead byte rest).kind = .illegal := by
          simpa [Lexeme.kind_eq_illegal_iff] using legal
        simp [Lexeme.warnings_eq_nil legal, Token.reports, Token.warnings, Token.isIllegal,
          Token.ofLexeme, notIllegal]
      · simp only [not_forall, not_not] at legal
        rcases legal with ⟨bad, isIllegal⟩
        have head := Lexeme.bytes_atHead_isPrefix byte rest
        simp only [isIllegal, Lexeme.bytes, List.cons_prefix_cons] at head
        rcases head with ⟨rfl, _⟩
        simp [isIllegal, Lexeme.warnings, Lexeme.kind, Token.reports, Token.warnings,
          Token.isIllegal, Token.ofLexeme, inside]

theorem offset_lt_of_isIllegal {token : Token} (stands : cursor.StandsIn source)
    (member : token ∈ cursor.tokens.result) (illegal : token.isIllegal = true) :
    token.start.offset < source.length := by
  fun_induction tokens cursor with
  | case1 cursor scan ended =>
      simp only [List.mem_singleton] at member
      subst member
      exact stands.reports_scan.2 illegal
  | case2 cursor scan going ih =>
      simp only [Logged.result_after, Logged.result_map, List.mem_cons] at member
      rcases member with rfl | later
      · exact stands.reports_scan.2 illegal
      · exact ih stands.next later

theorem reports_tokens (stands : cursor.StandsIn source) :
    cursor.tokens.reports = reportsOf source cursor.tokens.result := by
  fun_induction tokens cursor with
  | case1 cursor scan ended =>
      simpa [Logged.reports, reportsOf] using stands.reports_scan.1
  | case2 cursor scan going ih =>
      simp [stands.reports_scan.1, ih stands.next, scan]

/-- In the source that it was found in, exactly an illegal token has an error. -/
theorem isIllegal_iff (stands : cursor.StandsIn source) :
    cursor.scan.token.isIllegal = true ↔
      ∃ error, cursor.scan.token.illegalCharacter? source = some error := by
  constructor
  · intro illegal
    have inside := stands.reports_scan.2 illegal
    simp [Token.illegalCharacter?, illegal, inside]
  · rintro ⟨error, found⟩
    by_contra legal
    simp [Token.illegalCharacter?, legal] at found

theorem reports_legalTokens (stands : cursor.StandsIn source) :
    (cursor.legalTokens source).reports =
      reportsOf source (upToIllegal cursor.tokens.result) := by
  fun_induction legalTokens source cursor with
  | case1 cursor scan error found =>
      have illegal := stands.isIllegal_iff.mpr ⟨error, found⟩
      have first : ∃ later, cursor.tokens.result = cursor.scan.token :: later := by
        by_cases ended : cursor.scan.token.isEof = true
        · exact ⟨[], tokens_of_isEof ended⟩
        · exact ⟨_, tokens_of_not_isEof ended⟩
      rcases first with ⟨later, split⟩
      simpa [split, upToIllegal, illegal, Logged.reports, reportsOf] using stands.reports_scan.1
  | case2 cursor scan found ended =>
      have legal : ¬cursor.scan.token.isIllegal = true := by
        simp [stands.isIllegal_iff, found, scan]
      have split := tokens_of_isEof ended
      simpa [split, upToIllegal, legal, Logged.reports, reportsOf] using stands.reports_scan.1
  | case3 cursor scan found going ih =>
      have legal : ¬cursor.scan.token.isIllegal = true := by
        simp [stands.isIllegal_iff, found, scan]
      have split := tokens_of_not_isEof going
      simp [split, upToIllegal, legal, stands.reports_scan.1, ih stands.next, scan]

end StandsIn

end Cursor

/-! ### Reports of a token stream -/

namespace TokenStream

variable {stream : TokenStream}

/-- The tokens that are left in a stream, with what its registers report while they are read. -/
def scanToEnd (stream : TokenStream) : Logged (List Token) :=
  let scanned := stream.scan
  if scanned.result.1.isEof then
    { events := scanned.events, result := [scanned.result.1] }
  else
    (scanned.result.2.scanToEnd.map (scanned.result.1 :: ·)).after scanned.events
termination_by stream.bytesLeft
decreasing_by exact bytesLeft_scan_lt ‹_›

/-- The same up to the first illegal token, which is answered with its error. -/
def scanToIllegal (stream : TokenStream) : Logged (Except IllegalCharacter (List Token)) :=
  let scanned := stream.scan
  match scanned.result.1.illegalCharacter? stream.source.toList with
  | some error => { events := scanned.events, result := .error error }
  | none =>
      if scanned.result.1.isEof then
        { events := scanned.events, result := .ok [scanned.result.1] }
      else
        (scanned.result.2.scanToIllegal.map (·.map (scanned.result.1 :: ·))).after scanned.events
termination_by stream.bytesLeft
decreasing_by exact bytesLeft_scan_lt ‹_›

theorem scanToEnd_eq (sound : stream.IsSound) : stream.scanToEnd = stream.cursor.tokens := by
  fun_induction scanToEnd stream with
  | case1 stream scanned ended =>
      rcases scan_eq sound with ⟨next, _, _, _, _, made⟩
      have sameToken : stream.cursor.scan.token.isEof = true := by simpa [scanned, made] using ended
      rw [Cursor.tokens]
      simp [scanned, made, sameToken]
  | case2 stream scanned going ih =>
      rcases scan_eq sound with ⟨next, nextSound, nextCursor, _, _, made⟩
      have sameToken : ¬stream.cursor.scan.token.isEof = true := by
        simpa [scanned, made] using going
      have rest : next.scanToEnd = stream.cursor.scan.next.tokens := by
        simpa [scanned, made, nextCursor] using ih (by simpa [scanned, made] using nextSound)
      rw [Cursor.tokens]
      simp [scanned, made, sameToken, rest]

theorem scanToIllegal_eq {source : List Byte} (sound : stream.IsSound)
    (same : stream.source.toList = source) :
    stream.scanToIllegal = stream.cursor.legalTokens source := by
  fun_induction scanToIllegal stream with
  | case1 stream scanned error found =>
      rcases scan_eq sound with ⟨next, _, _, _, _, made⟩
      have sameError : stream.cursor.scan.token.illegalCharacter? source = some error := by
        simpa [scanned, made, same] using found
      rw [Cursor.legalTokens]
      simp [scanned, made, sameError]
  | case2 stream scanned found ended =>
      rcases scan_eq sound with ⟨next, _, _, _, _, made⟩
      have noError : stream.cursor.scan.token.illegalCharacter? source = none := by
        simpa [scanned, made, same] using found
      have sameToken : stream.cursor.scan.token.isEof = true := by simpa [scanned, made] using ended
      rw [Cursor.legalTokens]
      simp [scanned, made, noError, sameToken]
  | case3 stream scanned found going ih =>
      rcases scan_eq sound with ⟨next, nextSound, nextCursor, nextSource, _, made⟩
      have noError : stream.cursor.scan.token.illegalCharacter? source = none := by
        simpa [scanned, made, same] using found
      have sameToken : ¬stream.cursor.scan.token.isEof = true := by
        simpa [scanned, made] using going
      have rest : next.scanToIllegal = stream.cursor.scan.next.legalTokens source := by
        simpa [scanned, made, nextCursor] using
          ih (by simpa [scanned, made] using nextSound) (by simp [scanned, made, nextSource, same])
      rw [Cursor.legalTokens]
      simp [scanned, made, noError, sameToken, rest]

end TokenStream

/-! ### Reports of the front end -/

namespace IllegalPolicy

theorem reports_scan (policy : IllegalPolicy) (source : List Byte) :
    (policy.scan source).reports =
      (policy.scanOpen source).reports ++ closingReports source (policy.scan source).result := by
  simp only [scan]
  split
  · next tokens accepted =>
      simp [Logged.reports, accepted, closingReports, closingEvent]
  · next error rejected => simp [rejected, closingReports]

end IllegalPolicy

/-- All that is reported of a source can be read off its tokens, whether a token stream reports it
or the scanner, and wherever a source or a line is handed in. Whoever stops at an illegal token has
reported a prefix, and the front end alone closes the reports, with the number of the tokens that it
hands back. -/
theorem reports_of_tokensOf (source : List Byte) (line : String) :
    let all := reportsOf source (tokensOf source)
    let upToError := reportsOf source (upToIllegal (tokensOf source))
    (∀ token ∈ tokensOf source, token.isIllegal = true → token.start.offset < source.length) ∧
    upToError <+: all ∧
    (TokenStream.ofBytes source).scanToEnd = scanAll source ∧
    (TokenStream.ofBytes source).scanToIllegal = scanLegal source ∧
    (scanAll source).reports = all ∧
    (scanLegal source).reports = upToError ∧
    (IllegalPolicy.report.scan source).reports =
      all ++ closingReports source (IllegalPolicy.report.scan source).result ∧
    (IllegalPolicy.reject.scan source).reports =
      upToError ++ closingReports source (IllegalPolicy.reject.scan source).result ∧
    (∀ policy : IllegalPolicy, policy.scanText line = policy.scan (Text.encode line)) ∧
    (scanLine line).reports =
      reportsOf (Text.encode line) (tokensOf (Text.encode line)) ++
        closingReports (Text.encode line) (.ok (scanLine line).result) := by
  intro all upToError
  have reported : ∀ text, (scanAll text).reports = reportsOf text (tokensOf text) :=
    fun text => (Cursor.StandsIn.start text).reports_tokens
  have reportedLegal : (scanLegal source).reports = upToError :=
    (Cursor.StandsIn.start source).reports_legalTokens
  have sound := TokenStream.isSound_ofBytes source
  have cursor := TokenStream.cursor_ofBytes source
  refine ⟨?_, ?_, ?_, ?_, reported source, reportedLegal, ?_, ?_, fun policy => rfl, ?_⟩
  · intro token member illegal
    exact (Cursor.StandsIn.start source).offset_lt_of_isIllegal member illegal
  · exact reportsOf_isPrefix source (upToIllegal_isPrefix _)
  · rw [TokenStream.scanToEnd_eq sound, cursor]
    rfl
  · have same : (TokenStream.ofBytes source).source.toList = source := by
      unfold TokenStream.ofBytes TokenStream.readByte
      split <;> simp
    rw [TokenStream.scanToIllegal_eq sound same, cursor]
    rfl
  · rw [IllegalPolicy.reports_scan]
    exact congrArg (· ++ _) (reported source)
  · rw [IllegalPolicy.reports_scan]
    exact congrArg (· ++ _) reportedLegal
  · rw [← reported]
    simp [scanLine, Logged.reports, closingReports, closingEvent]

-- A rejected source: the tokens before the illegal byte, the byte, its token, and no closing.
example :
    (IllegalPolicy.reject.scan [97, 10, 64, 98]).reports.map (·.message) =
      ["scanned IDENT(\"a\") at offset 0", "illegal byte 0x40 at offset 2 (line 2, column 1)",
        "scanned ILLEGAL(\"\") at offset 2"] := by
  decide +kernel

end MonkeyLexis
