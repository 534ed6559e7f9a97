import Mathlib.Data.List.Basic
import Mathlib.Data.List.TakeWhile

namespace WebSsh2.Library.Shell

inductive OperatorChar where
  | and | or | semi | less | greater | open | close
deriving DecidableEq

-- What a character means to the shell where it is not quoted. `expansion` starts a parameter,
-- a command or an arithmetic expansion; `pattern` is one of a pathname expansion.
inductive CharClass where
  | nul | newline | blank | operator (char : OperatorChar) | quote | doubleQuote | backslash
  | expansion | pattern | tilde | hash | ordinary
deriving DecidableEq

-- A character of a word. What is active is the start of an expansion; nothing is expanded here.
inductive Piece (α : Type*) where
  | plain (char : α) (quoted : Bool)
  | active (char : α)
deriving DecidableEq

inductive Token (α : Type*) where
  | word (pieces : List (Piece α))
  | operator (chars : List OperatorChar)
  | newline
deriving DecidableEq

inductive Mode where
  | unquoted | escaped | single | double | doubleEscaped | comment
deriving DecidableEq

def isOperator : List OperatorChar → Bool
  | [_] => true
  | [first, second] =>
    (first, second) ∈ [(.and, .and), (.or, .or), (.semi, .semi), (.less, .less),
      (.greater, .greater), (.less, .and), (.greater, .and), (.less, .greater), (.greater, .or)]
  | _ => false

-- The token that is being read, and those before it.
structure Lexer (α : Type*) where
  mode : Mode := .unquoted
  current : Option (Token α) := none
  tokens : List (Token α) := []
deriving DecidableEq

section Lexing

variable {α : Type*} (classify : α → CharClass)

namespace Lexer

variable (lexer : Lexer α)

def delimit : Lexer α :=
  { lexer with current := none, tokens := lexer.tokens ++ lexer.current.toList }

-- A word goes on, or starts here, even if nothing is in it yet.
def append (pieces : List (Piece α)) : Lexer α :=
  match lexer.current with
  | some (.word before) => { lexer with current := some (.word (before ++ pieces)) }
  | _ => { lexer.delimit with current := some (.word pieces) }

def operate (char : OperatorChar) : Lexer α :=
  match lexer.current with
  | some (.operator chars) =>
    if isOperator (chars ++ [char]) then
      { lexer with current := some (.operator (chars ++ [char])) }
    else
      { lexer.delimit with current := some (.operator [char]) }
  | _ => { lexer.delimit with current := some (.operator [char]) }

def inWord : Bool :=
  match lexer.current with
  | some (.word _) => true
  | _ => false

def endLine : Lexer α :=
  { lexer.delimit with mode := .unquoted, tokens := lexer.delimit.tokens ++ [.newline] }

variable (char : α)

def stepUnquoted : Lexer α :=
  match classify char with
  | .blank => lexer.delimit
  | .newline => lexer.endLine
  | .operator operator => lexer.operate operator
  | .quote => { lexer.append [] with mode := .single }
  | .doubleQuote => { lexer.append [] with mode := .double }
  | .backslash => { lexer with mode := .escaped }
  | .expansion | .pattern => lexer.append [.active char]
  | .tilde => lexer.append [if lexer.inWord then .plain char false else .active char]
  | .hash =>
    if lexer.inWord then lexer.append [.plain char false]
    else { lexer.delimit with mode := .comment }
  | .nul | .ordinary => lexer.append [.plain char false]

-- An escaped newline joins two lines.
def stepEscaped : Lexer α :=
  if classify char = .newline then
    { lexer with mode := .unquoted }
  else
    { lexer.append [.plain char true] with mode := .unquoted }

def stepSingle : Lexer α :=
  if classify char = .quote then
    { lexer with mode := .unquoted }
  else
    lexer.append [.plain char true]

def stepDouble : Lexer α :=
  match classify char with
  | .doubleQuote => { lexer with mode := .unquoted }
  | .backslash => { lexer with mode := .doubleEscaped }
  | .expansion => lexer.append [.active char]
  | _ => lexer.append [.plain char true]

def stepDoubleEscaped (backslash : α) (lexer : Lexer α) (char : α) : Lexer α :=
  match classify char with
  | .newline => { lexer with mode := .double }
  | .doubleQuote | .backslash | .expansion =>
    { lexer.append [.plain char true] with mode := .double }
  | _ => { lexer.append [.plain backslash true, .plain char true] with mode := .double }

def stepComment : Lexer α :=
  if classify char = .newline then lexer.endLine else lexer

def step (backslash : α) (lexer : Lexer α) (char : α) : Lexer α :=
  match lexer.mode with
  | .unquoted => lexer.stepUnquoted classify char
  | .escaped => lexer.stepEscaped classify char
  | .single => lexer.stepSingle classify char
  | .double => lexer.stepDouble classify char
  | .doubleEscaped => lexer.stepDoubleEscaped classify backslash char
  | .comment => lexer.stepComment classify char

-- Where a quotation is still open at the end, there are no tokens.
def finish : Option (List (Token α)) :=
  if lexer.mode = .unquoted ∨ lexer.mode = .comment then some lexer.delimit.tokens else none

end Lexer

-- The tokens of a command. A string ends at its first NUL.
def lex (backslash : α) (command : List α) : Option (List (Token α)) :=
  ((command.takeWhile fun char => classify char ≠ .nul).foldl (Lexer.step classify backslash)
    {}).finish

end Lexing

namespace Token

variable {α : Type*}

variable (text : List α)

-- A word as it stands in the command, and one that is all quoted.
def bare : Token α :=
  .word (text.map (.plain · false))

def quoted : Token α :=
  .word (text.map (.plain · true))

-- The word after quote removal, where nothing in it has to be expanded.
def text? : Token α → Option (List α)
  | .word pieces => pieces.mapM fun
      | .plain char _ => some char
      | .active _ => none
  | _ => none

theorem text?_plain (isQuoted : Bool) :
    text? (.word (text.map (.plain · isQuoted))) = some text := by
  induction text with
  | nil => rfl
  | cons char rest ih =>
    simp only [text?, List.map_cons, List.mapM_cons] at ih ⊢
    rw [ih]
    rfl

@[simp] theorem text?_quoted : (quoted text).text? = some text :=
  text?_plain text true

end Token

section Steps

variable {α : Type*} {classify : α → CharClass} {quote backslash : α}

theorem step_close (hclass : classify quote = .quote) (before : List (Piece α))
    (tokens : List (Token α)) :
    Lexer.step classify backslash ⟨.single, some (.word before), tokens⟩ quote =
      ⟨.unquoted, some (.word before), tokens⟩ :=
  if_pos hclass

theorem step_escape (hclass : classify backslash = .backslash) (current : Option (Token α))
    (tokens : List (Token α)) :
    Lexer.step classify backslash ⟨.unquoted, current, tokens⟩ backslash =
      ⟨.escaped, current, tokens⟩ := by
  simp only [Lexer.step, Lexer.stepUnquoted, hclass]

theorem step_escaped {char : α} (hclass : classify char ≠ .newline) (before : List (Piece α))
    (tokens : List (Token α)) :
    Lexer.step classify backslash ⟨.escaped, some (.word before), tokens⟩ char =
      ⟨.unquoted, some (.word (before ++ [.plain char true])), tokens⟩ :=
  if_neg hclass

theorem step_open (hclass : classify quote = .quote) (before : List (Piece α))
    (tokens : List (Token α)) :
    Lexer.step classify backslash ⟨.unquoted, some (.word before), tokens⟩ quote =
      ⟨.single, some (.word before), tokens⟩ := by
  simp only [Lexer.step, Lexer.stepUnquoted, hclass, Lexer.append, List.append_nil]

theorem step_begin (hclass : classify quote = .quote) (tokens : List (Token α)) :
    Lexer.step classify backslash ⟨.unquoted, none, tokens⟩ quote =
      ⟨.single, some (.word []), tokens⟩ := by
  simp only [Lexer.step, Lexer.stepUnquoted, hclass, Lexer.append, Lexer.delimit,
    Option.toList_none, List.append_nil]

theorem step_single {char : α} (hclass : classify char ≠ .quote) (before : List (Piece α))
    (tokens : List (Token α)) :
    Lexer.step classify backslash ⟨.single, some (.word before), tokens⟩ char =
      ⟨.single, some (.word (before ++ [.plain char true])), tokens⟩ :=
  if_neg hclass

end Steps

section Quoting

variable {α : Type*} [DecidableEq α]

def quotedChar (quote backslash char : α) : List α :=
  if char = quote then [quote, backslash, quote, quote] else [char]

-- A text in single quotes; each quote in it closes them, is escaped, and opens them again.
def singleQuoted (quote backslash : α) (text : List α) : List α :=
  quote :: text.flatMap (quotedChar quote backslash) ++ [quote]

variable {classify : α → CharClass} {quote backslash : α}

-- Between its quotes the text is taken as it is; a quote leaves them and comes back.
theorem foldl_quotedBody (hquote : ∀ char, classify char = .quote ↔ char = quote)
    (hbackslash : classify backslash = .backslash) (text : List α) (before : List (Piece α))
    (tokens : List (Token α)) :
    (text.flatMap (quotedChar quote backslash)).foldl
      (Lexer.step classify backslash) ⟨.single, some (.word before), tokens⟩ =
      ⟨.single, some (.word (before ++ text.map (.plain · true))), tokens⟩ := by
  have hclass : classify quote = .quote := (hquote quote).mpr rfl
  induction text generalizing before with
  | nil => rw [List.map_nil, List.append_nil]; rfl
  | cons char rest ih =>
    rw [List.flatMap_cons, List.foldl_append, List.map_cons, List.append_cons, ← ih]
    unfold quotedChar
    by_cases hchar : char = quote
    · have hline : classify quote ≠ .newline := by rw [hclass]; exact CharClass.noConfusion
      rw [if_pos hchar, hchar, List.foldl_cons, step_close hclass, List.foldl_cons,
        step_escape hbackslash, List.foldl_cons, step_escaped hline, List.foldl_cons,
        step_open hclass, List.foldl_nil]
    · rw [if_neg hchar, List.foldl_cons, step_single fun h => hchar ((hquote char).mp h),
        List.foldl_nil]

variable (hquote : ∀ char, classify char = .quote ↔ char = quote)
  (hbackslash : classify backslash = .backslash)

include hquote hbackslash

-- After a command up to a blank, the quoted text is one more word.
theorem foldl_singleQuoted (text : List α) (tokens : List (Token α)) :
    (singleQuoted quote backslash text).foldl (Lexer.step classify backslash)
      ⟨.unquoted, none, tokens⟩ = ⟨.unquoted, some (.quoted text), tokens⟩ := by
  have hclass : classify quote = .quote := (hquote quote).mpr rfl
  unfold singleQuoted
  rw [List.cons_append, List.foldl_cons, step_begin hclass, List.foldl_append,
    foldl_quotedBody hquote hbackslash, List.foldl_cons, step_close hclass, List.foldl_nil]
  rfl

variable {text : List α}

theorem nul_notMem_quotedBody (htext : ∀ char ∈ text, classify char ≠ .nul) :
    ∀ char ∈ text.flatMap (quotedChar quote backslash),
      classify char ≠ .nul := by
  intro char hmem
  obtain ⟨unit, hunit, hin⟩ := List.mem_flatMap.mp hmem
  unfold quotedChar at hin
  by_cases hsame : unit = quote
  · rw [if_pos hsame] at hin
    simp only [List.mem_cons, List.not_mem_nil, or_false] at hin
    have hspecial : char = quote ∨ char = backslash := by tauto
    rcases hspecial with rfl | rfl
    · rw [(hquote char).mpr rfl]
      exact CharClass.noConfusion
    · rw [hbackslash]
      exact CharClass.noConfusion
  · rw [if_neg hsame, List.mem_singleton] at hin
    rw [hin]
    exact htext unit hunit

theorem nul_notMem_singleQuoted (htext : ∀ char ∈ text, classify char ≠ .nul) :
    ∀ char ∈ singleQuoted quote backslash text, classify char ≠ .nul := by
  have hquoteNul : classify quote ≠ .nul := by
    rw [(hquote quote).mpr rfl]
    exact CharClass.noConfusion
  intro char hmem
  rw [singleQuoted, List.cons_append, List.mem_cons, List.mem_append, List.mem_singleton] at hmem
  rcases hmem with rfl | hbody | rfl
  · exact hquoteNul
  · exact nul_notMem_quotedBody hquote hbackslash htext char hbody
  · exact hquoteNul

-- A command in front of a quoted text: what it is read as does not depend on the text.
theorem lex_command {command : List α} {tokens : List (Token α)}
    (hcommand : ∀ char ∈ command, classify char ≠ .nul)
    (hread : command.foldl (Lexer.step classify backslash) {} = ⟨.unquoted, none, tokens⟩)
    (htext : ∀ char ∈ text, classify char ≠ .nul) :
    lex classify backslash (command ++ singleQuoted quote backslash text) =
      some (tokens ++ [.quoted text]) := by
  have hall : ∀ char ∈ command ++ singleQuoted quote backslash text,
      decide (classify char ≠ .nul) = true := by
    intro char hmem
    rcases List.mem_append.mp hmem with hmem | hmem
    · exact decide_eq_true (hcommand char hmem)
    · exact decide_eq_true (nul_notMem_singleQuoted hquote hbackslash htext char hmem)
  unfold lex
  rw [List.takeWhile_eq_self_iff.mpr hall, List.foldl_append, hread,
    foldl_singleQuoted hquote hbackslash]
  rfl

end Quoting

end WebSsh2.Library.Shell
