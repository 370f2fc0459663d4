import ReactScaffold.Proofs.CommandLine.Parse
import ReactScaffold.Proofs.Project.Naming

/-!
# Command lines that spell answers

A name is spelled by itself, a choice by its option and a word, and a switch by one of its two
spellings. `Invocation.parse_of_spelling` says that a command line which spells each of some answers
once, in whatever order, is read as exactly these answers.
-/

namespace ReactScaffold

open Text

/-- The arguments spell an answer. The word of an option is an argument of its own, or follows an
equals sign. -/
inductive Spells : List String → String × Json String → Prop where
  | name (text : String) : Spells [text] ("project_name", .str text)
  | apart {f : Flag} {answer : String} {choices : List String} (known : f ∈ Flag.all)
      (effect : f.effect = .choose answer choices) (word : String) :
      Spells [f.name, word] (answer, .str word)
  | joined {f : Flag} {answer : String} {choices : List String} (known : f ∈ Flag.all)
      (effect : f.effect = .choose answer choices) (word : String) :
      Spells [f.name ++ "=" ++ word] (answer, .str word)
  | switch {f : Flag} {answer : String} {on : Bool} (known : f ∈ Flag.all)
      (effect : f.effect = .switch answer on) : Spells [f.name] (answer, .bool on)

/-- The command line spells each of the answers once, in some order. -/
def SpellsAll (arguments : List String) (answers : Answers) : Prop :=
  ∃ (pieces : List (List String)) (entries : Answers),
    arguments = pieces.flatten ∧ List.Forall₂ Spells pieces entries ∧ entries.Perm answers

/-- The answer is one that a command line can give: a text does not look like an option, and it is
one of the choices where an option offers some. -/
def Spellable (e : String × Json String) : Prop :=
  ∀ word, e.2 = .str word → word.toList.head? ≠ some '-' ∧
    ∀ choices, choicesOf? e.1 = some choices → word ∈ choices

/-! ## Options as arguments -/

/-- The answer that an option gives. -/
def Effect.answer? : Effect → Option String
  | .choose answer _ | .switch answer _ => some answer
  | _ => none

/-- An option is found by its name, which starts with a dash, is not just dashes and has no equals
sign; and it leaves the name of the project alone. -/
structure Flag.Regular (f : Flag) : Prop where
  dashed : f.name.toList.head? = some '-'
  ne_dashes : f.name ≠ "--"
  notMem : '=' ∉ f.name.toList
  ofName : Flag.ofName? f.name = some f
  answer_ne : f.effect.answer? ≠ some "project_name"

theorem Flag.regular_of_mem_all {f : Flag} (h : f ∈ Flag.all) : f.Regular := by
  have hall : ∀ f ∈ Flag.all, f.name.toList.head? = some '-' ∧ f.name ≠ "--" ∧
      '=' ∉ f.name.toList ∧ Flag.ofName? f.name = some f ∧
      f.effect.answer? ≠ some "project_name" := by decide +kernel
  obtain ⟨hdashed, hne, hnot, hname, hanswer⟩ := hall f h
  exact ⟨hdashed, hne, hnot, hname, hanswer⟩

theorem Token.ofArgument_name {f : Flag} (h : f ∈ Flag.all) :
    Token.ofArgument f.name = .ok (.option f none) := by
  have hf := Flag.regular_of_mem_all h
  rw [Token.ofArgument, if_neg (not_not_intro hf.dashed), hf.ofName]

theorem Token.ofArgument_of_head? {text : String} (h : text.toList.head? ≠ some '-') :
    Token.ofArgument text = .ok (.operand text) := if_pos h

theorem splitEquals_append {name value : List Char} (h : '=' ∉ name) :
    splitEquals (name ++ '=' :: value) = (name, some value) := by
  have hne : ∀ c ∈ name, decide (c ≠ '=') = true := fun c hc =>
    decide_eq_true fun heq => h (heq ▸ hc)
  have hdrop : (name ++ '=' :: value).dropWhile (· ≠ '=') = '=' :: value := by
    rw [List.dropWhile_append_of_pos hne, List.dropWhile_cons_of_neg (by simp)]
  have htake : (name ++ '=' :: value).takeWhile (· ≠ '=') = name := by
    rw [List.takeWhile_append_of_pos hne, List.takeWhile_cons_of_neg (by simp), List.append_nil]
  rw [splitEquals, hdrop, htake]

/-- An option with an equals sign and a word behind it is the option with the word attached. -/
theorem Token.ofArgument_joined {f : Flag} (h : f ∈ Flag.all) (word : String) :
    Token.ofArgument (f.name ++ "=" ++ word) = .ok (.option f (some word.toList)) := by
  have hf := Flag.regular_of_mem_all h
  have hcs : (f.name ++ "=" ++ word).toList = f.name.toList ++ '=' :: word.toList := by simp
  have hhead : (f.name ++ "=" ++ word).toList.head? = some '-' := by
    rw [hcs, List.head?_append, hf.dashed]
    rfl
  have hequals : '=' ∈ (f.name ++ "=" ++ word).toList := by simp
  have hnone : Flag.ofName? (f.name ++ "=" ++ word) = none := by
    cases hfound : Flag.ofName? (f.name ++ "=" ++ word) with
    | none => rfl
    | some g =>
        have hname : g.name = f.name ++ "=" ++ word := by
          simpa [Flag.ofName?] using List.find?_some hfound
        have hg := (Flag.regular_of_mem_all (Flag.mem_all_of_ofName? hfound)).notMem
        exact absurd (hname ▸ hequals) hg
  have hsingle : f.name ++ "=" ++ word ≠ "-" := fun heq => by
    rw [heq] at hequals
    simp at hequals
  rw [Token.ofArgument, if_neg (not_not_intro hhead), hnone]
  dsimp only
  rw [if_neg hsingle, dashedToken, hcs, splitEquals_append hf.notMem]
  dsimp only
  rw [String.ofList_toList, hf.ofName]

theorem tokens_cons {argument : String} {token : Token} (hne : argument ≠ "--")
    (htoken : Token.ofArgument argument = .ok token) {rest : List String} {ts : List Token}
    (hrest : tokens rest = .ok ts) : tokens (argument :: rest) = .ok (token :: ts) := by
  rw [tokens, if_neg hne, htoken, hrest]
  rfl

theorem ne_dashes_of_head? {text : String} (h : text.toList.head? ≠ some '-') : text ≠ "--" :=
  fun heq => h (heq ▸ rfl)

/-! ## Reading answers -/

namespace Reading

/-- The reading after an answer is read. -/
def withAnswer (r : Reading) (e : String × Json String) : Reading :=
  { r with
    invocation.answers := OrderedMap.insert r.invocation.answers e.1 e.2
    operandRead := r.operandRead || decide (e.1 = "project_name") }

theorem withAnswer_of_ne (r : Reading) {answer : String} (h : answer ≠ "project_name")
    (v : Json String) :
    r.withAnswer (answer, v) =
      { r with invocation.answers := OrderedMap.insert r.invocation.answers answer v } := by
  simp [withAnswer, h]

theorem invocation_foldl_withAnswer (r : Reading) (entries : Answers) :
    (entries.foldl withAnswer r).invocation =
      { r.invocation with answers := OrderedMap.insertAll r.invocation.answers entries } := by
  induction entries generalizing r with
  | nil => rfl
  | cons e entries ih => exact ih (r.withAnswer e)

theorem leftOver_foldl_withAnswer (r : Reading) (entries : Answers) :
    (entries.foldl withAnswer r).leftOver = r.leftOver := by
  induction entries generalizing r with
  | nil => rfl
  | cons e entries ih => exact ih (r.withAnswer e)

variable {r : Reading} {f : Flag} {answer : String} {ts : List Token}

theorem read_operand (hread : r.operandRead = false) (hts : ts.head? ≠ some .terminator)
    (text : String) :
    r.read (.operand text :: ts) = (r.withAnswer ("project_name", .str text)).read ts := by
  have hwith : r.withAnswer ("project_name", .str text) = r.withOperand text := by
    simp [withAnswer, withOperand]
  rw [read, if_neg (by simp [hread]), hwith]
  rintro rest rfl
  exact hts rfl

/-- No option gives the name of the project. -/
theorem answer_ne (known : f ∈ Flag.all) (h : f.effect.answer? = some answer) :
    answer ≠ "project_name" := by
  rintro rfl
  exact (Flag.regular_of_mem_all known).answer_ne h

/-- An option with one of its words gives the answer. -/
theorem apply_choose {choices : List String} {word : String} (known : f ∈ Flag.all)
    (effect : f.effect = .choose answer choices) (hword : word ∈ choices) (r : Reading) :
    r.apply [(f, some word)] = .ok (r.withAnswer (answer, .str word)) := by
  have hanswer : answer ≠ "project_name" := answer_ne known (by rw [effect]; rfl)
  have hchoice : f.readChoice choices (some word) = .ok (.str word) :=
    if_pos (List.contains_iff_mem.2 hword)
  have happly : f.apply r.invocation (some word) =
      .ok { r.invocation with
        answers := OrderedMap.insert r.invocation.answers answer (.str word) } := by
    rw [Flag.apply, effect]
    dsimp only
    rw [hchoice]
    rfl
  rw [apply, applyAll, List.foldlM_cons, happly, withAnswer_of_ne r hanswer]
  rfl

theorem read_apart {choices : List String} {word : String} (known : f ∈ Flag.all)
    (effect : f.effect = .choose answer choices) (hword : word ∈ choices) :
    r.read (.option f none :: .operand word :: ts) =
      (r.withAnswer (answer, .str word)).read ts := by
  have hvalue : f.effect.takesValue = true := by rw [effect]; rfl
  rw [read]
  show (if f.effect.takesValue then r.apply ([] ++ [(f, some word)]) >>= fun r => r.read ts else _) =
    _
  rw [if_pos hvalue, List.nil_append, apply_choose known effect hword]
  rfl

theorem read_joined {choices : List String} {word : String} (known : f ∈ Flag.all)
    (effect : f.effect = .choose answer choices) (hword : word ∈ choices)
    (hdashes : word.toList ≠ ['-', '-']) :
    r.read (.option f (some word.toList) :: ts) = (r.withAnswer (answer, .str word)).read ts := by
  have hcluster : clusterOf f (some word.toList) = .ok { complete := [(f, some word)] } := by
    rw [clusterOf, cluster.eq_def, effect]
    simp [Effect.takesValue, attachedValue, hdashes]
  rw [read, hcluster]
  show (r.apply [(f, some word)] >>= fun r => r.read ts) = _
  rw [apply_choose known effect hword]
  rfl

theorem read_switch {on : Bool} (known : f ∈ Flag.all) (effect : f.effect = .switch answer on) :
    r.read (.option f none :: ts) = (r.withAnswer (answer, .bool on)).read ts := by
  have hanswer : answer ≠ "project_name" := answer_ne known (by rw [effect]; rfl)
  have hvalue : f.effect.takesValue = false := by rw [effect]; rfl
  have happly : r.apply [(f, none)] = .ok (r.withAnswer (answer, .bool on)) := by
    rw [withAnswer_of_ne r hanswer, apply, applyAll, List.foldlM_cons, Flag.apply, effect]
    rfl
  rw [read]
  show (if f.effect.takesValue then _ else r.apply ([] ++ [(f, none)]) >>= fun r => r.read ts) = _
  rw [if_neg (by simp [hvalue]), List.nil_append, happly]
  rfl

end Reading

/-! ## Reading a command line -/

/-- The answer is read from the tokens, wherever they stand. -/
structure Gives (ts : List Token) (e : String × Json String) : Prop where
  notMem : .terminator ∉ ts
  read (r : Reading) (rest : List Token) (hrest : .terminator ∉ rest)
    (hread : e.1 = "project_name" → r.operandRead = false) :
    r.read (ts ++ rest) = (r.withAnswer e).read rest

theorem head?_ne_terminator {ts : List Token} (h : .terminator ∉ ts) :
    ts.head? ≠ some .terminator := fun hhead => h (List.mem_of_mem_head? hhead)

theorem choices_of_effect {f : Flag} {answer : String} {choices : List String}
    (known : f ∈ Flag.all) (effect : f.effect = .choose answer choices) :
    choicesOf? answer = some choices := by
  have hagrees := agrees_of_mem_all known
  rw [effect] at hagrees
  exact of_decide_eq_true hagrees

/-- The tokens of arguments that spell an answer give the answer. -/
theorem Spells.exists_tokens {piece : List String} {e : String × Json String} (h : Spells piece e)
    (he : Spellable e) :
    ∃ ts, Gives ts e ∧ ∀ rest us, tokens rest = .ok us → tokens (piece ++ rest) = .ok (ts ++ us) := by
  cases h with
  | name text =>
      have hhead := (he text rfl).1
      refine ⟨[.operand text], ⟨by simp, fun r rest hrest hread => ?_⟩, fun rest us hus => ?_⟩
      · exact Reading.read_operand (hread rfl) (head?_ne_terminator hrest) text
      · exact tokens_cons (ne_dashes_of_head? hhead) (Token.ofArgument_of_head? hhead) hus
  | @apart f _ _ known effect word =>
      obtain ⟨hhead, hchoices⟩ := he word rfl
      have hword := hchoices _ (choices_of_effect known effect)
      refine ⟨[.option f none, .operand word], ⟨by simp, fun r rest _ _ => ?_⟩,
        fun rest us hus => ?_⟩
      · exact Reading.read_apart known effect hword
      · exact tokens_cons (Flag.regular_of_mem_all known).ne_dashes (Token.ofArgument_name known)
          (tokens_cons (ne_dashes_of_head? hhead) (Token.ofArgument_of_head? hhead) hus)
  | @joined f _ _ known effect word =>
      obtain ⟨hhead, hchoices⟩ := he word rfl
      have hword := hchoices _ (choices_of_effect known effect)
      have hdashes : word.toList ≠ ['-', '-'] := fun heq => hhead (heq ▸ rfl)
      have hne : f.name ++ "=" ++ word ≠ "--" := fun heq => by
        have hequals : '=' ∈ (f.name ++ "=" ++ word).toList := by simp
        rw [heq] at hequals
        simp at hequals
      refine ⟨[.option f (some word.toList)], ⟨by simp, fun r rest _ _ => ?_⟩,
        fun rest us hus => ?_⟩
      · exact Reading.read_joined known effect hword hdashes
      · exact tokens_cons hne (Token.ofArgument_joined known word) hus
  | @switch f _ _ known effect =>
      refine ⟨[.option f none], ⟨by simp, fun r rest _ _ => ?_⟩, fun rest us hus => ?_⟩
      · exact Reading.read_switch known effect
      · exact tokens_cons (Flag.regular_of_mem_all known).ne_dashes (Token.ofArgument_name known) hus

/-- The tokens of a command line that spells answers with distinct names give all of them. -/
theorem exists_tokens_flatten {pieces : List (List String)} {entries : Answers}
    (h : List.Forall₂ Spells pieces entries) (hs : ∀ e ∈ entries, Spellable e)
    (hnodup : (OrderedMap.keys entries).Nodup) :
    ∃ ts, tokens pieces.flatten = .ok ts ∧ .terminator ∉ ts ∧
      ∀ r : Reading, ("project_name" ∈ OrderedMap.keys entries → r.operandRead = false) →
        r.read ts = .ok (entries.foldl Reading.withAnswer r) := by
  induction h with
  | nil => exact ⟨[], rfl, by simp, fun r _ => rfl⟩
  | @cons piece e pieces entries hpiece _ ih =>
      obtain ⟨he, hrest⟩ := List.forall_mem_cons.1 hs
      rw [OrderedMap.keys_cons, List.nodup_cons] at hnodup
      obtain ⟨us, hus, hterminator, hread⟩ := ih hrest hnodup.2
      obtain ⟨ts, hts, htokens⟩ := hpiece.exists_tokens he
      refine ⟨ts ++ us, htokens _ us hus, by simp [hts.notMem, hterminator], fun r hr => ?_⟩
      rw [hts.read r us hterminator fun hname => hr (hname ▸ List.mem_cons_self)]
      refine hread _ fun hname => ?_
      have hne : e.1 ≠ "project_name" := fun heq => hnodup.1 (heq ▸ hname)
      simp [Reading.withAnswer, hne, hr (List.mem_cons_of_mem _ hname)]

/-- A command line that spells answers is read as these answers, in some order, and nothing else. -/
theorem Invocation.parse_of_spelling {arguments : List String} {answers : Answers}
    (h : SpellsAll arguments answers) (hs : ∀ e ∈ answers, Spellable e)
    (hnodup : (OrderedMap.keys answers).Nodup) :
    ∃ entries : Answers, entries.Perm answers ∧
      parse arguments = .ok { answers := entries } := by
  obtain ⟨pieces, entries, rfl, hpieces, hperm⟩ := h
  have hkeys : (OrderedMap.keys entries).Nodup := (hperm.map Prod.fst).nodup_iff.2 hnodup
  obtain ⟨ts, hts, -, hread⟩ :=
    exists_tokens_flatten hpieces (fun e he => hs e (hperm.mem_iff.1 he)) hkeys
  have hinvocation := Reading.invocation_foldl_withAnswer {} entries
  have hanswers : OrderedMap.insertAll ([] : Answers) entries = entries :=
    OrderedMap.ofEntries_of_nodup hkeys
  refine ⟨entries, hperm, ?_⟩
  rw [parse, hts]
  show (({} : Reading).read ts >>= fun r => _) = _
  rw [hread {} fun _ => rfl, ok_bind, Reading.leftOver_foldl_withAnswer, hinvocation, hanswers]
  rfl

end ReactScaffold
