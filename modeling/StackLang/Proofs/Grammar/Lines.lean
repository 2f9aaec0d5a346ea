import Mathlib
import StackLang.Proofs.Grammar.Alone

/-! # Statements on lines

A block may have its statements on lines of their own, or with semicolons between them. A semicolon
always ends a statement. A newline does so behind numbers, names, closing parentheses and `return`,
where it is a terminator, and behind `end`, where none is needed. Behind a quoted text it is no
terminator, and the statement goes on if the next line starts with a parenthesis.

* `SpellsLine` — statements with terminators behind them.
* `RunOn` — a line that ends in a quoted text stands before one that starts with a parenthesis.
* `statements_lines_iff` — lines that were ended are the statements of a body, unless they run on.
* `IsStatement`, `blockOf` — texts that are one statement each, and the block of them.
* `Separates` — what may stand between such texts: semicolons and newlines.
* `block_lines` — the blocks of such texts, with semicolons and on lines. -/

namespace StackLang.Grammar

open Parse

/-! ## Statements in a body -/

/-- A statement that is spelled is the first of a body. -/
theorem SpellsStatement.statements_eq {kinds : List TokenKind} {parsed : Statement} {token : Token}
    {items behind : List Item} (h : SpellsStatement kinds token.kind parsed)
    (hreads : Reads kinds items (.ok token :: behind)) :
    statements items = (statements (.ok token :: behind)).map (parsed :: ·) :=
  statements_eq_map (SpellsStatement.parses h rfl hreads)

/-- A statement with a terminator behind it is the first of a body. -/
theorem SpellsAlone.statements_terminator {kinds : List TokenKind} {parsed : Statement}
    (h : SpellsAlone kinds parsed) {items behind : List Item} {token : Token}
    (hreads : Reads (kinds ++ [.delimiter .terminator]) items (.ok token :: behind)) :
    statements items = (statements (.ok token :: behind)).map (parsed :: ·) := by
  have hcontinues : ¬ Continues (.delimiter .terminator) := by
    rintro (hopen | ⟨sign, hsign⟩)
    · cases hopen
    · cases hsign
  -- The terminator is left for the body, but by a `return` without a value.
  have hleft : SpellsStatement kinds (.delimiter .terminator) parsed →
      statements items = (statements (.ok token :: behind)).map (parsed :: ·) := by
    intro hstatement
    obtain ⟨middle, hfirst, hterminator⟩ := reads_append.mp hreads
    have hskip := Grammar.statements_terminator hterminator
    obtain ⟨terminator, _, rfl, hkind, -⟩ := hterminator
    rw [← hkind] at hstatement
    rw [hstatement.statements_eq hfirst, hskip]
  cases h with
  | binding name h => exact hleft (.binding name h hcontinues)
  | returningTerminated => exact hleft (.returningTerminated _)
  | returning =>
      have hstatement : SpellsStatement [.keyword .returnWord, .delimiter .terminator] token.kind
          (.returning none) := .returningTerminated token.kind
      exact hstatement.statements_eq hreads
  | returningValue h => exact hleft (.returningValue h hcontinues)
  | block h => exact hleft (.block _ h)
  | expression h => exact hleft (.expression h hcontinues)

/-! ## Lines -/

/-- The kinds spell a statement with any number of terminators behind it. -/
inductive SpellsLine : List TokenKind → Statement → Prop
  /-- A statement. -/
  | statement {kinds : List TokenKind} {parsed : Statement} (h : SpellsAlone kinds parsed) :
      SpellsLine kinds parsed
  /-- A terminator behind what is a line already. -/
  | terminator {kinds : List TokenKind} {parsed : Statement} (h : SpellsLine kinds parsed) :
      SpellsLine (kinds ++ [.delimiter .terminator]) parsed

variable {kinds : List TokenKind} {parsed : Statement}

/-- A line starts as its statement does. -/
theorem SpellsLine.exists_start (h : SpellsLine kinds parsed) :
    ∃ first behind, kinds = first :: behind ∧ first ≠ .delimiter .terminator
      ∧ ∀ sign, first ≠ .operator sign := by
  induction h with
  | statement h => exact h.exists_start
  | terminator _ ih =>
      obtain ⟨first, behind, rfl, hstart⟩ := ih
      exact ⟨first, _, rfl, hstart⟩

/-- What ends in a terminator does not end in a quoted text. -/
theorem not_endsInText_terminator (kinds : List TokenKind) :
    ¬ EndsInText (kinds ++ [.delimiter .terminator]) := by
  rintro ⟨contents, hlast⟩
  rw [List.getLast?_concat] at hlast
  cases hlast

/-- A line that ends in a quoted text is nothing but its statement. -/
theorem SpellsLine.alone (h : SpellsLine kinds parsed) (htext : EndsInText kinds) :
    SpellsAlone kinds parsed := by
  cases h with
  | statement h => exact h
  | terminator _ => exact absurd htext (not_endsInText_terminator _)

/-- A line with a terminator behind it is the first statement of a body. -/
theorem SpellsLine.statements_terminator (h : SpellsLine kinds parsed) {items behind : List Item}
    {token : Token} (hreads : Reads (kinds ++ [.delimiter .terminator]) items (.ok token :: behind)) :
    statements items = (statements (.ok token :: behind)).map (parsed :: ·) := by
  -- The terminators of the line itself are passed over, the last of them first.
  induction h generalizing token behind with
  | statement h => exact h.statements_terminator hreads
  | terminator _ ih =>
      obtain ⟨middle, hline, hterminator⟩ := reads_append.mp hreads
      have hskip := Grammar.statements_terminator hterminator
      obtain ⟨terminator, _, rfl, -, -⟩ := hterminator
      rw [ih hline, hskip]

/-- A line that a newline does not end is the first statement of a body, unless it runs on. -/
theorem SpellsLine.statements_eq (h : SpellsLine kinds parsed)
    (hended : endsBehind false kinds = false) {items behind : List Item} {token : Token}
    (hoperator : ∀ sign, token.kind ≠ .operator sign)
    (hparen : EndsInText kinds → token.kind ≠ .delimiter .openParen)
    (hreads : Reads kinds items (.ok token :: behind)) :
    statements items = (statements (.ok token :: behind)).map (parsed :: ·) := by
  cases h with
  | statement h => exact (h.before hended hoperator hparen).statements_eq hreads
  | terminator h => exact h.statements_terminator hreads

/-- Of two readings of the same items, one goes on with the other. -/
theorem Reads.prefix_total {first second : List TokenKind} {items rest other : List Item}
    (hfirst : Reads first items rest) (hsecond : Reads second items other) :
    first <+: second ∨ second <+: first := by
  induction first generalizing second items with
  | nil => exact .inl second.nil_prefix
  | cons kind kinds ih =>
      match second with
      | [] => exact .inr (List.nil_prefix)
      | _ :: _ =>
          obtain ⟨token, behind, rfl, rfl, hkinds⟩ := hfirst
          obtain ⟨_, _, hitems, rfl, hothers⟩ := hsecond
          cases hitems
          simpa only [List.prefix_cons_inj] using ih hkinds hothers

/-- A line that ends in a quoted text is no statement before a parenthesis. -/
theorem SpellsLine.statements_ne (h : SpellsLine kinds parsed) (htext : EndsInText kinds)
    {others : List TokenKind} {items rest : List Item}
    (hreads : Reads (kinds ++ .delimiter .openParen :: others) items rest) (body : List Statement)
    (left : List Item) : statements items ≠ .done (parsed :: body) left := by
  intro hbody
  obtain ⟨start, hstart, hspelled⟩ := statements_sound hbody
  cases hspelled with
  | terminator _ =>
      -- No line starts with a terminator.
      obtain ⟨first, _, rfl, hfirst, -⟩ := h.exists_start
      obtain ⟨token, _, rfl, hkind, -⟩ := hstart
      obtain ⟨_, _, hitems, hsame, -⟩ := hreads
      cases hitems
      exact hfirst (hsame.symm.trans hkind)
  | statement hstatement _ =>
      -- The statement that was read and the line with the parenthesis start alike.
      rcases hstart.prefix_total hreads with ⟨more, hmore⟩ | ⟨more, hmore⟩
      · rw [List.append_assoc, List.cons_append] at hmore
        exact (h.alone htext).not_goes_on htext hstatement hmore
      · rw [List.append_assoc, List.cons_append] at hmore
        exact (h.alone htext).not_goes_on htext hstatement hmore.symm

/-! ## Lines in a body -/

/-- A line that ends in a quoted text stands before one that starts with a parenthesis. -/
def RunOn : List (List TokenKind) → Prop
  | first :: second :: others =>
      (EndsInText first ∧ second.head? = some (.delimiter .openParen)) ∨ RunOn (second :: others)
  | _ => False

theorem map_eq_done_cons_iff {first : Statement} {outcome : Outcome (List Statement)}
    {others : List Statement} {rest : List Item} :
    outcome.map (first :: ·) = .done (first :: others) rest ↔ outcome = .done others rest := by
  cases outcome <;> simp

/-- Lines that no newline would end are the statements of a body, unless they run on. -/
theorem statements_lines_iff {lines : List (List TokenKind)} {body : List Statement}
    (h : List.Forall₂ SpellsLine lines body)
    (hended : ∀ line ∈ lines, endsBehind false line = false) {items rest : List Item}
    (hreads : Reads (lines.flatten ++ [.keyword .endWord]) items rest) (left : List Item) :
    statements items = .done body left ↔ left = rest ∧ ¬ RunOn lines := by
  induction h generalizing items with
  | nil =>
      rw [parsesBody_close hreads, Outcome.done.injEq]
      exact ⟨fun ⟨_, hleft⟩ => ⟨hleft.symm, id⟩, fun ⟨hleft, _⟩ => ⟨rfl, hleft.symm⟩⟩
  | @cons line parsed lines body hline hlines ih =>
      rw [List.flatten_cons, List.append_assoc] at hreads
      obtain ⟨middle, hfirst, hothers⟩ := reads_append.mp hreads
      have hended' := hended line List.mem_cons_self
      have ih := ih (fun other hmem => hended other (List.mem_cons_of_mem _ hmem)) hothers
      cases hlines with
      | nil =>
          -- The last line stands before the word `end`.
          obtain ⟨token, behind, rfl, hkind, -⟩ := hothers
          rw [hline.statements_eq hended' (by simp [hkind]) (by simp [hkind]) hfirst,
            map_eq_done_cons_iff, ih]
          rfl
      | @cons second next lines body hsecond hlines =>
          obtain ⟨start, more, rfl, -, hoperator⟩ := hsecond.exists_start
          -- Either this line runs on, and then there is no such body, or a later one may.
          by_cases hrun : EndsInText line ∧ start = .delimiter .openParen
          · obtain ⟨htext, rfl⟩ := hrun
            exact iff_of_false (hline.statements_ne htext hreads _ _)
              fun ⟨_, hnot⟩ => hnot (.inl ⟨htext, rfl⟩)
          · obtain ⟨token, behind, rfl, hkind, -⟩ := hothers
            rw [hline.statements_eq hended' (hkind ▸ hoperator)
              (fun htext hopen => hrun ⟨htext, hkind.symm.trans hopen⟩) hfirst,
              map_eq_done_cons_iff, ih, RunOn, List.head?_cons, Option.some_inj, or_iff_right hrun]

/-! ## Texts -/

/-- The text is one statement, with nothing but terminators behind it. -/
def IsStatement (text : List Char) (parsed : Statement) : Prop :=
  ∃ rest, statement (itemsOf text) = .done (some parsed) rest ∧ finish rest = .done () []

/-- Terminators behind a line belong to it. -/
theorem SpellsLine.finish {items rest : List Item} (h : SpellsLine kinds parsed)
    (hreads : Reads kinds items rest) (hfinish : finish rest = .done () []) :
    ∃ line, Reads line items [] ∧ SpellsLine line parsed := by
  induction rest generalizing kinds with
  | nil => exact ⟨kinds, hreads, h⟩
  | cons item rest ih =>
      match item with
      | .error _ => cases hfinish
      | .ok token =>
          rw [Parse.finish] at hfinish
          split at hfinish
          · next hkind =>
              exact ih (.terminator h) (reads_append.mpr ⟨_, hreads, .single hkind⟩) hfinish
          · cases hfinish

/-- The kinds of the tokens of a text. -/
def tokenKinds (text : List Char) : List TokenKind :=
  (itemsOf text).filterMap fun item => item.content.toOption

theorem tokenKinds_eq {text : List Char} (h : contentsOf false text = kinds.map .ok) :
    tokenKinds text = kinds := by
  have hmap : tokenKinds text = (contentsOf false text).filterMap Except.toOption := by
    rw [← content_itemsOf, List.filterMap_map]
    rfl
  rw [hmap, h, List.filterMap_map]
  exact List.filterMap_some

/-- A text that is one statement reads as a line. -/
theorem IsStatement.line {text : List Char} (h : IsStatement text parsed) :
    contentsOf false text = (tokenKinds text).map .ok ∧ SpellsLine (tokenKinds text) parsed := by
  obtain ⟨rest, hstatement, hfinish⟩ := h
  obtain ⟨kinds, hreads, hspelled⟩ := statement_sound hstatement
  obtain ⟨line, hline, hspelled⟩ := SpellsLine.finish (.statement hspelled.alone) hreads hfinish
  have hcontents := reads_itemsOf_iff.mp hline
  rw [tokenKinds_eq hcontents]
  exact ⟨hcontents, hspelled⟩

/-- The texts between `do` and `end`, each with the separator behind it. -/
def blockOf (separator : List Char) (texts : List (List Char)) : List Char :=
  ['d', 'o', ' '] ++ (texts.flatMap (· ++ separator) ++ ['e', 'n', 'd'])

/-- A separator that may be read behind any token. What it reads as depends on whether a newline
behind the token would end a statement; if so, it is a terminator. -/
structure Separates (separator : List Char) (behind : Bool → List TokenKind) : Prop where
  /-- No word and no number goes on with it. -/
  parted : ∀ text, Parted (separator ++ text)
  /-- It is read apart from the text behind it. -/
  contents : ∀ ends text,
    contentsOf ends (separator ++ text) = (behind ends).map .ok ++ contentsOf false text
  /-- It ends what a newline ends. -/
  ended : ∀ ends, behind ends = [.delimiter .terminator] ∨ (behind ends = [] ∧ ends = false)

/-- What a newline reads as. -/
def newlineKinds (ends : Bool) : List TokenKind :=
  if ends then [.delimiter .terminator] else []

theorem separates_semicolon :
    Separates [' ', ';', ' '] fun _ => [.delimiter .terminator] where
  parted text := parted_cons _ (by decide)
  contents ends text := by
    rw [List.cons_append, contentsOf_blank _ (by decide) (by simp), List.cons_append,
      contentsOf_sign rfl, List.cons_append, contentsOf_blank _ (by decide) (by simp)]
    rfl
  ended _ := .inl rfl

theorem separates_newline : Separates ['\n'] newlineKinds where
  parted := parted_newline
  contents := contentsOf_any_newline
  ended
    | true => .inl rfl
    | false => .inr ⟨rfl, rfl⟩

/-- A line with what a separator reads as behind it. -/
def endedBy (behind : Bool → List TokenKind) (line : List TokenKind) : List TokenKind :=
  line ++ behind (endsBehind false line)

section

variable {separator : List Char} {behind : Bool → List TokenKind}

/-- With a separator behind it, a line is still a line. -/
theorem Separates.line (hseparates : Separates separator behind) (h : SpellsLine kinds parsed) :
    SpellsLine (endedBy behind kinds) parsed := by
  rw [endedBy]
  rcases hseparates.ended (endsBehind false kinds) with hbehind | ⟨hbehind, -⟩
  · rw [hbehind]
    exact .terminator h
  · rwa [hbehind, List.append_nil]

/-- With a separator behind it, a line was ended. -/
theorem Separates.endsBehind (hseparates : Separates separator behind) (line : List TokenKind) :
    endsBehind false (endedBy behind line) = false := by
  rw [endedBy]
  rcases hseparates.ended (Grammar.endsBehind false line) with hbehind | ⟨hbehind, hends⟩
  · rw [hbehind, Grammar.endsBehind, lastIs_append]
    rfl
  · rw [hbehind, List.append_nil, hends]

/-- Texts with separators behind them read as their lines do. -/
theorem Separates.contentsOf_texts (hseparates : Separates separator behind)
    {texts : List (List Char)}
    (h : ∀ text ∈ texts, contentsOf false text = (tokenKinds text).map .ok) :
    contentsOf false (texts.flatMap (· ++ separator) ++ ['e', 'n', 'd'])
      = (((texts.map tokenKinds).map (endedBy behind)).flatten
        ++ [TokenKind.keyword .endWord]).map .ok := by
  induction texts with
  | nil =>
      have hword : contentsOf false ['e', 'n', 'd'] = [.ok (.keyword .endWord)] := by cbv
      exact hword
  | cons text texts ih =>
      have ih := ih fun other hmem => h other (List.mem_cons_of_mem _ hmem)
      have htext := h text List.mem_cons_self
      rw [List.flatMap_cons, List.append_assoc, List.append_assoc,
        contentsOf_append (hseparates.parted _) htext, hseparates.contents, ih, List.map_cons,
        List.map_cons, List.flatten_cons, endedBy]
      simp only [List.map_append, List.append_assoc]

/-- A block of texts reads as its lines between two words. -/
theorem Separates.contentsOf_block (hseparates : Separates separator behind)
    {texts : List (List Char)}
    (h : ∀ text ∈ texts, contentsOf false text = (tokenKinds text).map .ok) :
    contentsOf false (blockOf separator texts)
      = (TokenKind.keyword .doWord :: (((texts.map tokenKinds).map (endedBy behind)).flatten
        ++ [.keyword .endWord])).map .ok := by
  have hword : contentsOf false ['d', 'o'] = [TokenKind.keyword .doWord].map .ok := by cbv
  have hparted : Parted (' ' :: (texts.flatMap (· ++ separator) ++ ['e', 'n', 'd'])) :=
    parted_cons _ (by decide)
  have hbehind := contentsOf_append hparted hword
  rw [contentsOf_blank _ (by decide) (by simp)] at hbehind
  exact hbehind.trans (congrArg _ (hseparates.contentsOf_texts h))

/-- A block of texts that are one statement each has these statements, unless they run on. -/
theorem Separates.block_iff (hseparates : Separates separator behind) {texts : List (List Char)}
    {body : List Statement} (h : List.Forall₂ IsStatement texts body) (left : List Item) :
    block (itemsOf (blockOf separator texts)) = .done (.block body) left
      ↔ left = [] ∧ ¬ RunOn ((texts.map tokenKinds).map (endedBy behind)) := by
  obtain ⟨hcontents, hspelled⟩ :=
    (List.forall₂_and_left _ _).mp (h.imp fun _ _ hstatement => hstatement.line)
  have hlines : List.Forall₂ SpellsLine ((texts.map tokenKinds).map (endedBy behind)) body := by
    rw [List.forall₂_map_left_iff, List.forall₂_map_left_iff]
    exact hspelled.imp fun _ _ hline => hseparates.line hline
  have hended : ∀ line ∈ (texts.map tokenKinds).map (endedBy behind),
      Grammar.endsBehind false line = false := by
    intro line hmem
    obtain ⟨kinds, -, rfl⟩ := List.mem_map.mp hmem
    exact hseparates.endsBehind kinds
  -- Behind the word `do` stands a body of lines that were ended.
  obtain ⟨word, items, hitems, hword, hbody⟩ :=
    reads_itemsOf_iff.mpr (hseparates.contentsOf_block hcontents)
  have hconsume : consume (.keyword .doWord) (itemsOf (blockOf separator texts)) = .done () items :=
    consume_done_iff.mpr (hitems ▸ .single hword)
  rw [block, hconsume, Outcome.andThen_done, ← statements_lines_iff hlines hended hbody left]
  cases statements items <;> simp

end

/-! ## Blocks -/

/-- Behind a semicolon no line runs on. -/
theorem not_runOn_semicolons (lines : List (List TokenKind)) :
    ¬ RunOn (lines.map (endedBy fun _ => [.delimiter .terminator])) := by
  induction lines with
  | nil => exact id
  | cons line lines ih =>
      cases lines with
      | nil => exact id
      | cons second lines =>
          rintro (⟨htext, -⟩ | hothers)
          · exact not_endsInText_terminator _ htext
          · exact ih hothers

/-- A newline does not change how a line starts, or whether it ends in a quoted text. -/
theorem endedBy_newline (line : List TokenKind) :
    (endedBy newlineKinds line).head? = line.head?
      ∧ (EndsInText (endedBy newlineKinds line) ↔ EndsInText line) := by
  rw [endedBy]
  cases hends : endsBehind false line with
  | false =>
      rw [newlineKinds, if_neg Bool.false_ne_true, List.append_nil]
      exact ⟨rfl, Iff.rfl⟩
  | true =>
      constructor
      · cases line with
        | nil => cases hends
        | cons _ _ => rfl
      · -- Neither the terminator nor what a newline ends is a quoted text.
        refine iff_of_false (not_endsInText_terminator line) ?_
        rintro ⟨contents, hlast⟩
        rw [endsBehind, lastIs, hlast] at hends
        cases hends

/-- Behind newlines the same lines run on. -/
theorem runOn_newlines (lines : List (List TokenKind)) :
    RunOn (lines.map (endedBy newlineKinds)) ↔ RunOn lines := by
  induction lines with
  | nil => exact Iff.rfl
  | cons line lines ih =>
      cases lines with
      | nil => exact Iff.rfl
      | cons second lines =>
          rw [List.map_cons, List.map_cons, RunOn, RunOn, ← List.map_cons, ih,
            (endedBy_newline line).2, (endedBy_newline second).1]

/-- Texts that are one statement each, with semicolons between them, are a block of these
statements. On lines they are the same block if no line that ends in a quoted text stands before one
that starts with a parenthesis, and not otherwise. -/
theorem block_lines {texts : List (List Char)} {body : List Statement}
    (h : List.Forall₂ IsStatement texts body) :
    block (itemsOf (blockOf [' ', ';', ' '] texts)) = .done (.block body) []
      ∧ ∀ left, block (itemsOf (blockOf ['\n'] texts)) = .done (.block body) left
        ↔ left = [] ∧ ¬ RunOn (texts.map tokenKinds) := by
  constructor
  · exact (separates_semicolon.block_iff h []).mpr ⟨rfl, not_runOn_semicolons _⟩
  · intro left
    rw [separates_newline.block_iff h left, runOn_newlines]

/-- Behind a name a newline keeps a statement in parentheses apart. -/
theorem block_lines_name :
    List.Forall₂ IsStatement [['a'], ['(', 'b', ')']]
        [.expression (.name "a"), .expression (.name "b")]
      ∧ block (itemsOf (blockOf ['\n'] [['a'], ['(', 'b', ')']]))
        = .done (.block [.expression (.name "a"), .expression (.name "b")]) [] := by
  have hname : IsStatement ['a'] (.expression (.name "a")) := ⟨[], by cbv, rfl⟩
  have hparen : IsStatement ['(', 'b', ')'] (.expression (.name "b")) := ⟨[], by cbv, rfl⟩
  have htexts : List.Forall₂ IsStatement [['a'], ['(', 'b', ')']]
      [.expression (.name "a"), .expression (.name "b")] := .cons hname (.cons hparen .nil)
  have hfirst : tokenKinds ['a'] = [.identifier "a"] := by cbv
  have hapart : ¬ RunOn ([['a'], ['(', 'b', ')']].map tokenKinds) := by
    rw [List.map_cons, hfirst]
    rintro (⟨⟨contents, hlast⟩, -⟩ | hnone)
    · cases hlast
    · exact hnone
  exact ⟨htexts, ((block_lines htexts).2 []).mpr ⟨rfl, hapart⟩⟩

/-- Behind a quoted text it does not: the two lines are one statement, a call. -/
theorem block_lines_not_apart :
    ¬ ∀ texts body, List.Forall₂ IsStatement texts body →
      block (itemsOf (blockOf ['\n'] texts)) = .done (.block body) [] := by
  intro hall
  have htext : IsStatement ['"', 'a', '"'] (.expression (.text ['a'])) := ⟨[], by cbv, rfl⟩
  have hparen : IsStatement ['(', 'b', ')'] (.expression (.name "b")) := ⟨[], by cbv, rfl⟩
  have hcall : block (itemsOf (blockOf ['\n'] [['"', 'a', '"'], ['(', 'b', ')']]))
      = .done (.block [.expression (.call (.text ['a']) [.name "b"])]) [] := by cbv
  have happly := hall _ _ (.cons htext (.cons hparen .nil))
  rw [hcall] at happly
  cases happly

end StackLang.Grammar
