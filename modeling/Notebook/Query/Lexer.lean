import Notebook.Query.Problem
import Notebook.Text.Trim
import Notebook.Unicode.Numeric

/-!
# From characters to tokens

A `Notebook.Query.Lexer` stands somewhere in a query text. `Notebook.Query.Lexer.next` skips white
space and reads one token; whether it succeeds or not, it also says where the lexer stands
afterwards, so that reading can go on after an error. `Notebook.Query.tokenize` reads a whole text.

The reading of one token is `Notebook.Query.scan`. It splits the text in two, what was taken and
what is left (`Notebook.Query.scan_split`), and it takes something unless it fails or the text is
over (`Notebook.Query.scan_progress`).
-/

namespace Notebook.Query

open Number Unicode

/-! ### Scanning one token -/

/-- **What reading a token takes off a text.** A failure names the count of taken characters before
the place to blame. -/
structure Scan where
  /-- The token or the problem. -/
  outcome : Except (Problem × Nat) Token
  /-- The characters that were taken. -/
  taken : List Char
  /-- The characters that are left. -/
  rest : List Char

/-- The symbols, and how many characters each one has; a symbol that begins another one comes after
it. -/
def symbol? : List Char → Option (Token × Nat)
  | '=' :: '=' :: _ => some (.equal, 2)
  | '=' :: _ => some (.equal, 1)
  | '!' :: '=' :: _ => some (.notEqual, 2)
  | '!' :: _ => some (.bang, 1)
  | '<' :: '=' :: _ => some (.lessEqual, 2)
  | '<' :: _ => some (.less, 1)
  | '>' :: '=' :: _ => some (.greaterEqual, 2)
  | '>' :: _ => some (.greater, 1)
  | ',' :: _ => some (.comma, 1)
  | '.' :: _ => some (.dot, 1)
  | '(' :: _ => some (.openParen, 1)
  | ')' :: _ => some (.closeParen, 1)
  | _ => none

/-- Whether a character starts a name. -/
def startsName (c : Char) : Bool := isAlphabetic c || c == '_'

/-- Whether a character continues a name. -/
def continuesName (c : Char) : Bool := isAlphanumeric c || c == '_' || c == '-'

/-- Whether a character starts a tag. -/
def startsTag (c : Char) : Bool := isAlphanumeric c || c == '_'

/-- Whether a character continues a tag. -/
def continuesTag (c : Char) : Bool := isAlphanumeric c || c == '_' || c == '-' || c == '/'

/-- The token that a name spells: a truth value, null, a reserved word, or itself. -/
def Token.ofName (name : List Char) : Token :=
  let lower := asciiLowercase name
  if lower = ['t', 'r', 'u', 'e'] then .boolean true
  else if lower = ['f', 'a', 'l', 's', 'e'] then .boolean false
  else if lower = ['n', 'u', 'l', 'l'] then .null
  else
    match Keyword.ofName? (String.ofList name) with
    | some word => .keyword word
    | none => .identifier (String.ofList name)

/-- Scans a name. -/
def scanName (cs : List Char) : Scan :=
  let name := cs.takeWhile continuesName
  ⟨.ok (.ofName name), name, cs.dropWhile continuesName⟩

/-- Scans a tag after its number sign. -/
def scanTag (cs : List Char) : Scan :=
  let name := cs.takeWhile continuesTag
  ⟨.ok (.tag (String.ofList name)), '#' :: name, cs.dropWhile continuesTag⟩

/-! ### Numbers -/

/-- The fraction at the start of a text: a point and the digits after it, of which there is one. -/
def fractionDigits (cs : List Char) : List Char :=
  match cs with
  | '.' :: rest => rest.takeWhile Char.isDigit
  | _ => []

/-- The token of a whole number with a sign. -/
def wholeToken (negative : Bool) (digits : List Char) : Except (Problem × Nat) Token :=
  let n : Int := if negative then -(wholeOf digits : Int) else wholeOf digits
  if fitsInteger n then .ok (.integer (.ofInt n))
  else .error (.badNumber ((if negative then "-" else "") ++ String.ofList digits), 0)

/-- Scans a number after its sign: digits, and a fraction if there is one. -/
def scanDigits (negative : Bool) (cs : List Char) : Scan :=
  let sign := if negative then ['-'] else []
  let whole := cs.takeWhile Char.isDigit
  let rest := cs.dropWhile Char.isDigit
  let places := fractionDigits rest
  if places = [] then ⟨wholeToken negative whole, sign ++ whole, rest⟩
  else
    ⟨.ok (.real (.ofDecimal negative (wholeOf (whole ++ places)) (-places.length))),
      sign ++ whole ++ '.' :: places, rest.drop (places.length + 1)⟩

/-! ### Texts in quotes and links -/

/-- The character for the letter after a backslash. -/
def escapedCharacter? : Char → Option Char
  | 'n' => some '\n'
  | 't' => some '\t'
  | 'r' => some '\r'
  | '"' => some '"'
  | '\'' => some '\''
  | '\\' => some '\\'
  | _ => none

/-- How a text in quotes comes to its end. -/
inductive Quoted
  /-- By its closing quote. -/
  | closed (value : List Char)
  /-- Not at all. -/
  | unclosed
  /-- By a backslash before a character that it does not go with. -/
  | badEscape (c : Char)

/-- A quoted text with one more character in front. -/
def Quoted.cons (c : Char) : Quoted → Quoted
  | closed value => closed (c :: value)
  | other => other

/-- Scans a quoted text after its opening quote; what was taken and what is left. After a bad escape
the backslash is taken and the character after it is not. -/
def scanQuoted (quote : Char) : List Char → Quoted × List Char × List Char
  | [] => (.unclosed, [], [])
  | ['\\'] => (.unclosed, ['\\'], [])
  | '\\' :: c :: cs =>
    match escapedCharacter? c with
    | some d =>
      let (value, taken, rest) := scanQuoted quote cs
      (value.cons d, '\\' :: c :: taken, rest)
    | none => (.badEscape c, ['\\'], c :: cs)
  | c :: cs =>
    if c = quote then (.closed [], [c], cs)
    else
      let (value, taken, rest) := scanQuoted quote cs
      (value.cons c, c :: taken, rest)

/-- Scans a text in quotes after its opening quote. -/
def scanString (quote : Char) (cs : List Char) : Scan :=
  match scanQuoted quote cs with
  | (.closed value, taken, rest) => ⟨.ok (.string (String.ofList value)), quote :: taken, rest⟩
  | (.unclosed, taken, rest) => ⟨.error (.unclosedString, 0), quote :: taken, rest⟩
  | (.badEscape c, taken, rest) => ⟨.error (.badEscape c, taken.length), quote :: taken, rest⟩

/-- Scans the target of a link: whether the closing brackets follow on the same line, the target,
and what follows it. -/
def scanTarget : List Char → Bool × List Char × List Char
  | [] => (false, [], [])
  | ']' :: ']' :: cs => (true, [], ']' :: ']' :: cs)
  | c :: cs =>
    if c = '\n' then (false, [], c :: cs)
    else
      let (found, target, rest) := scanTarget cs
      (found, c :: target, rest)

/-- Scans a link after its opening brackets. -/
def scanLink (cs : List Char) : Scan :=
  match scanTarget cs with
  | (true, target, rest) =>
    ⟨.ok (.link (String.ofList (Text.trim target))), '[' :: '[' :: target ++ [']', ']'],
      rest.drop 2⟩
  | (false, target, rest) => ⟨.error (.unclosedLink, 0), '[' :: '[' :: target, rest⟩

/-! ### Any token -/

/-- Takes nothing, because of a character that starts no token. -/
def scanNothing (c : Char) (cs : List Char) : Scan :=
  ⟨.error (.unexpectedCharacter c, 0), [], c :: cs⟩

/-- **Scans one token** at the start of a text that has no white space there. -/
def scan (cs : List Char) : Scan :=
  match cs with
  | [] => ⟨.ok .endOfInput, [], []⟩
  | c :: rest =>
    match symbol? cs with
    | some (token, count) => ⟨.ok token, cs.take count, cs.drop count⟩
    | none =>
      if c = '-' then
        if rest.head?.any Char.isDigit then scanDigits true rest else ⟨.ok .minus, ['-'], rest⟩
      else if c.isDigit then scanDigits false cs
      else if c = '"' ∨ c = '\'' then scanString c rest
      else if c = '#' then
        if rest.head?.any startsTag then scanTag rest else scanNothing c rest
      else if c = '[' then
        match rest with
        | '[' :: target => scanLink target
        | _ => scanNothing c rest
      else if startsName c then scanName cs
      else scanNothing c rest

/-! ### The lexer -/

/-- **A place in a query text** together with the text that is left there. -/
structure Lexer where
  /-- The characters that are left. -/
  rest : List Char
  /-- The place. -/
  position : Position
  deriving DecidableEq

namespace Lexer

/-- The lexer at the start of a text. -/
def ofText (source : String) : Lexer := ⟨source.toList, .start⟩

/-- The lexer after white space. -/
def skipBlanks (lexer : Lexer) : Lexer :=
  ⟨lexer.rest.dropWhile isWhiteSpace,
    lexer.position.advance (lexer.rest.takeWhile isWhiteSpace)⟩

/-- **Reads the next token**; gives also where the lexer stands afterwards. -/
def next (lexer : Lexer) : Except SyntaxError Lexeme × Lexer :=
  let start := lexer.skipBlanks
  let scanned := scan start.rest
  let outcome := match scanned.outcome with
    | .ok token => .ok ⟨token, scanned.taken, start.position⟩
    | .error (problem, count) =>
      .error ⟨problem, start.position.advance (scanned.taken.take count)⟩
  (outcome, ⟨scanned.rest, start.position.advance scanned.taken⟩)

end Lexer

/-! ### What a scan takes -/

theorem scanQuoted_split (quote : Char) (cs : List Char) :
    (scanQuoted quote cs).2.1 ++ (scanQuoted quote cs).2.2 = cs := by
  fun_induction scanQuoted quote cs <;> simp_all

theorem scanTarget_split (cs : List Char) :
    (scanTarget cs).2.1 ++ (scanTarget cs).2.2 = cs := by
  fun_induction scanTarget cs <;> simp_all

/-- A target that is found is followed by closing brackets. -/
theorem scanTarget_found (cs : List Char) (h : (scanTarget cs).1 = true) :
    ∃ after, (scanTarget cs).2.2 = ']' :: ']' :: after := by
  fun_induction scanTarget cs with
  | case1 => cases h
  | case2 cs => exact ⟨cs, rfl⟩
  | case3 cs => cases h
  | case4 c cs hne hc found target rest heq ih =>
    rw [heq] at ih
    exact ih h

theorem scanString_split (quote : Char) (cs : List Char) :
    (scanString quote cs).taken ++ (scanString quote cs).rest = quote :: cs := by
  have h := scanQuoted_split quote cs
  unfold scanString
  split <;> simp_all

theorem scanLink_split (cs : List Char) :
    (scanLink cs).taken ++ (scanLink cs).rest = '[' :: '[' :: cs := by
  have h := scanTarget_split cs
  have found := scanTarget_found cs
  unfold scanLink
  split
  · next target rest heq =>
    rw [heq] at h found
    obtain ⟨after, rfl⟩ := found rfl
    simpa using h
  · next heq => simp_all

theorem drop_length_takeWhile (p : Char → Bool) (cs : List Char) :
    cs.drop (cs.takeWhile p).length = cs.dropWhile p := by
  induction cs with
  | nil => rfl
  | cons c cs ih =>
    by_cases h : p c
    · simpa [h] using ih
    · simp [h]

theorem fractionDigits_split (cs : List Char) (h : fractionDigits cs ≠ []) :
    '.' :: fractionDigits cs ++ cs.drop ((fractionDigits cs).length + 1) = cs := by
  unfold fractionDigits at *
  split at h
  · next rest =>
    simp [drop_length_takeWhile]
  · exact absurd rfl h

theorem scanDigits_split (negative : Bool) (cs : List Char) :
    (scanDigits negative cs).taken ++ (scanDigits negative cs).rest =
      (if negative then ['-'] else []) ++ cs := by
  unfold scanDigits
  dsimp only
  split
  · simp
  · next h =>
    have hf := fractionDigits_split _ h
    rw [List.append_assoc, List.append_assoc, hf]
    simp

/-- The symbol at the start of a text has one of its first characters, and is not the end. -/
theorem symbol?_eq_some {cs : List Char} {token : Token} {count : Nat}
    (h : symbol? cs = some (token, count)) :
    0 < count ∧ cs ≠ [] ∧ token ≠ .endOfInput := by
  unfold symbol? at h
  split at h <;> simp_all <;> (obtain ⟨rfl, rfl⟩ := h; simp)

/-- **A scan splits the text** into what is taken and what is left. -/
theorem scan_split (cs : List Char) : (scan cs).taken ++ (scan cs).rest = cs := by
  unfold scan
  repeat' split
  all_goals simp_all [scanName, scanTag, scanNothing, scanDigits_split, scanString_split,
    scanLink_split]

theorem scanDigits_taken (negative : Bool) {cs : List Char} (h : cs.head?.any Char.isDigit) :
    (scanDigits negative cs).taken ≠ [] := by
  cases cs with
  | nil => simp at h
  | cons c cs =>
    have hc : c.isDigit = true := by simpa using h
    unfold scanDigits
    dsimp only
    split <;> simp [hc]

theorem scanName_taken {c : Char} (h : startsName c) (cs : List Char) :
    (scanName (c :: cs)).taken ≠ [] := by
  have hc : continuesName c = true := by
    simp only [startsName, continuesName, isAlphanumeric, Bool.or_eq_true] at h ⊢
    rcases h with h | h
    · exact .inl (.inl (.inl (.inl h)))
    · exact .inl (.inr h)
  simp [scanName, hc]

theorem scanString_taken (quote : Char) (cs : List Char) : (scanString quote cs).taken ≠ [] := by
  unfold scanString
  split <;> simp

theorem scanLink_taken (cs : List Char) : (scanLink cs).taken ≠ [] := by
  unfold scanLink
  split <;> simp

/-- **A scan makes progress**: with a token other than the end, it takes something. -/
theorem scan_progress {cs : List Char} {token : Token} (h : (scan cs).outcome = .ok token)
    (hne : token ≠ .endOfInput) : (scan cs).taken ≠ [] := by
  unfold scan at h ⊢
  split at h
  · exact absurd (Except.ok.inj h).symm hne
  · next c rest =>
    split at h
    · next symbol count heq =>
      obtain ⟨hcount, -, -⟩ := symbol?_eq_some heq
      simp [Nat.pos_iff_ne_zero.mp hcount]
    · next heq =>
      split at h
      · next hc =>
        rw [if_pos hc]
        split
        · next hd => exact scanDigits_taken true hd
        · simp
      · next hc =>
        rw [if_neg hc]
        split at h
        · next hd =>
          rw [if_pos hd]
          exact scanDigits_taken false (by simpa using hd)
        · next hd =>
          rw [if_neg hd]
          split at h
          · next hq => rw [if_pos hq]; exact scanString_taken c rest
          · next hq =>
            rw [if_neg hq]
            split at h
            · next ht =>
              rw [if_pos ht]
              split at h
              · next htag => simp [htag, scanTag]
              · exact absurd h (by simp [scanNothing])
            · next ht =>
              rw [if_neg ht]
              split at h
              · next hl =>
                rw [if_pos hl]
                split at h
                · exact scanLink_taken _
                · exact absurd h (by simp [scanNothing])
              · next hl =>
                rw [if_neg hl]
                split at h
                · next hn => rw [if_pos hn]; exact scanName_taken hn rest
                · exact absurd h (by simp [scanNothing])

namespace Lexer

theorem length_rest_skipBlanks (lexer : Lexer) :
    lexer.skipBlanks.rest.length ≤ lexer.rest.length := by
  have h := congrArg List.length
    (List.takeWhile_append_dropWhile (p := isWhiteSpace) (l := lexer.rest))
  rw [List.length_append] at h
  simp only [skipBlanks]
  omega

/-- Reading a token never lengthens the text that is left. -/
theorem length_rest_next (lexer : Lexer) : lexer.next.2.rest.length ≤ lexer.rest.length := by
  have h := congrArg List.length (scan_split lexer.skipBlanks.rest)
  have hb := lexer.length_rest_skipBlanks
  rw [List.length_append] at h
  change (scan lexer.skipBlanks.rest).rest.length ≤ _
  omega

/-- **Reading a token shortens the text that is left**, unless the token is the end. -/
theorem length_rest_next_lt {lexer : Lexer} {lexeme : Lexeme} (h : lexer.next.1 = .ok lexeme)
    (hne : lexeme.token ≠ .endOfInput) : lexer.next.2.rest.length < lexer.rest.length := by
  have hs := congrArg List.length (scan_split lexer.skipBlanks.rest)
  have hb := lexer.length_rest_skipBlanks
  rw [List.length_append] at hs
  have hscan : (scan lexer.skipBlanks.rest).outcome = .ok lexeme.token := by
    unfold next at h
    dsimp only at h
    split at h
    · next token heq =>
      rw [heq, ← Except.ok.inj h]
    · cases h
  have ht := List.length_pos_iff.mpr (scan_progress hscan hne)
  change (scan lexer.skipBlanks.rest).rest.length < _
  omega

/-- The tokens from a place on, of which the last one is the end. -/
def tokens (lexer : Lexer) : Except SyntaxError (List Lexeme) :=
  match _h : lexer.next with
  | (.error e, _) => .error e
  | (.ok lexeme, after) =>
    if _hend : lexeme.token = .endOfInput then .ok [lexeme]
    else
      match tokens after with
      | .ok lexemes => .ok (lexeme :: lexemes)
      | .error e => .error e
termination_by lexer.rest.length
decreasing_by
  have h := @length_rest_next_lt lexer lexeme (by rw [_h]) _hend
  rwa [_h] at h

end Lexer

/-- **The tokens of a query text**, of which the last one is the end. -/
def tokenize (source : String) : Except SyntaxError (List Lexeme) := (Lexer.ofText source).tokens

end Notebook.Query
