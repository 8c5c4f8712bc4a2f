import ImportResolution.CommandLine.Interface

/-! How arguments are read that stand in the plainest order: the operands of a command first, and
then its long switches, written out, each followed by its value. Texts that do not begin with a dash
are read as what they are, whatever they say. -/
namespace ImportResolution.CommandLine

variable {κ : Type} {text : Text}

/-- A text that does not begin with a dash. -/
def Operand (text : Text) : Prop := text.head? ≠ some '-'

instance : Decidable (Operand text) := inferInstanceAs (Decidable (_ ≠ _))

theorem Operand.ne_dashes (operand : Operand text) : text ≠ ['-', '-'] := by
  rintro rfl
  exact operand rfl

namespace Signature

variable {s : Signature κ} {rest : List Text} {tokens : List (Token κ)} {token : Token κ}

theorem tokens_operand (operand : Operand text) (more : s.tokens rest = .ok tokens) :
    s.tokens (text :: rest) = .ok (.operand text :: tokens) := by
  have role : s.classify text = .ok (.operand text) := by
    unfold Signature.classify
    split
    · exact absurd rfl operand
    · rfl
  simp only [Signature.tokens, operand.ne_dashes, if_false, role, more, Except.map]

theorem tokens_switch (other : text ≠ ['-', '-']) (role : s.classify text = .ok token)
    (more : s.tokens rest = .ok tokens) : s.tokens (text :: rest) = .ok (token :: tokens) := by
  simp only [Signature.tokens, other, if_false, role, more, Except.map]

theorem text_of_classify (role : s.classify text = .ok token) : token.text = text := by
  unfold Signature.classify at role
  split at role
  · split at role
    · cases role
      rfl
    · simp only at role
      split at role
      · cases role
        rfl
      · split at role
        · cases role
          rfl
        · split at role <;> cases role <;> rfl
        · cases role
  · cases role
    rfl

/-- The roles of arguments keep their texts. -/
theorem map_text_tokens {arguments : List Text} (read : s.tokens arguments = .ok tokens) :
    tokens.map Token.text = arguments := by
  induction arguments generalizing tokens with
  | nil =>
    cases read
    rfl
  | cons text rest ih =>
    unfold Signature.tokens at read
    split at read
    · rename_i dashes
      cases read
      have kept : Token.text ∘ (.operand : Text → Token κ) = id := rfl
      simp [Token.text, dashes, kept]
    · split at read
      · cases read
      · rename_i token role
        cases more : s.tokens rest with
        | error halt => simp [more, Except.map] at read
        | ok tokens =>
          rw [more] at read
          cases read
          rw [List.map_cons, text_of_classify role, ih more]

/-- An operand is given the one argument that it takes. -/
theorem operandTexts_one {kind : OperandKind} (operand : Operand text) :
    operandTexts kind [(.operand text : Token κ)] = [text] := by
  unfold operandTexts
  split
  · rfl
  · simp [Token.text, operand.ne_dashes]

theorem valueSetting_operand (switch : Switch κ) (operand : Operand text) :
    valueSetting switch text = ⟨switch.key, some text⟩ := by
  simp [valueSetting, operand.ne_dashes]

end Signature

/-- Behind the name of a command, the tool leaves everything to the command. -/
theorem parse_main {name : Text} {arguments : List Text} {tokens : List (Token Key)}
    (operand : Operand name) (read : mainSignature.tokens arguments = .ok tokens) :
    mainSignature.parse (name :: arguments) = .ok ⟨[], [name :: arguments], []⟩ := by
  rw [Signature.parse, Signature.tokens_operand operand read,
    ← Signature.map_text_tokens read]
  simp only [Signature.takeAll, List.length_cons]
  split <;> rfl

/-- A command is read from the arguments behind its name, if none of them is left over. -/
theorem parseArguments_command {name : Text} (part : Part) {arguments : List Text}
    {tokens : List (Token Key)} {command : Command} (operand : Operand name)
    (known : commands.lookup name = some part)
    (read : mainSignature.tokens arguments = .ok tokens)
    (parsed : parseCommand part arguments = .ok (some command, [])) :
    parseArguments (name :: arguments) = .ok ⟨some command, false⟩ := by
  simp only [parseArguments, parse_main operand read, parseOperands, known, parsed]
  rfl

variable {directory fileName specifier file root value name : Text}

/-- The command `locate` with a directory, a file name and the exchanged form. -/
theorem parse_locate (directoryPlain : Operand directory) (namePlain : Operand fileName) :
    parseArguments ["locate".toList, directory, "--config-file".toList, fileName, "--json".toList]
      = .ok ⟨some (.locate ⟨some directory, fileName, true, false⟩), false⟩ := by
  have taken : locateSignature.parse
      [directory, "--config-file".toList, fileName, "--json".toList]
      = .ok ⟨[Signature.valueSetting (switchNamed .fileName .value ["--config-file"]) fileName,
          ⟨.json, none⟩],
        [Signature.operandTexts .optional [(.operand directory : Token Key)]], []⟩ := by
    rw [Signature.parse, Signature.tokens_operand directoryPlain <|
      Signature.tokens_switch (by decide) rfl <| Signature.tokens_operand namePlain <|
      Signature.tokens_switch (by decide) rfl rfl]
    rfl
  rw [Signature.operandTexts_one directoryPlain, Signature.valueSetting_operand _ namePlain]
    at taken
  refine parseArguments_command .locate (by decide) rfl
    (Signature.tokens_operand directoryPlain <| Signature.tokens_switch (by decide) rfl <|
      Signature.tokens_operand namePlain <| Signature.tokens_switch (by decide) rfl rfl) ?_
  simp only [parseCommand, taken]
  rfl

/-- The command `resolve` with a root and one more switch that takes a value. -/
theorem parse_resolve (switch : Switch Key) (specifierPlain : Operand specifier)
    (filePlain : Operand file) (rootPlain : Operand root) (valuePlain : Operand value)
    (other : name ≠ ['-', '-'])
    (role : resolveSignature.classify name = .ok (.switch name ⟨switch, name, none⟩))
    (valued : switch.kind = .value)
    (mainRole : mainSignature.classify name = .ok (.unknown name)) :
    parseArguments ["resolve".toList, specifier, file, "--root".toList, root, name, value]
      = .ok ⟨some (.resolve (resolveArguments ⟨[⟨.root, some root⟩, ⟨switch.key, some value⟩],
          [[specifier], [file]], []⟩)), false⟩ := by
  have taken : resolveSignature.parse [specifier, file, "--root".toList, root, name, value]
      = .ok ⟨[Signature.valueSetting (switchNamed .root .value ["--root"]) root,
          Signature.valueSetting switch value],
        [Signature.operandTexts .one [(.operand specifier : Token Key)],
          Signature.operandTexts .one [(.operand file : Token Key)]], []⟩ := by
    rw [Signature.parse, Signature.tokens_operand specifierPlain <|
      Signature.tokens_operand filePlain <| Signature.tokens_switch (by decide) rfl <|
      Signature.tokens_operand rootPlain <| Signature.tokens_switch other role <|
      Signature.tokens_operand valuePlain rfl]
    obtain ⟨key, names, kind⟩ := switch
    cases valued
    rfl
  rw [Signature.operandTexts_one specifierPlain, Signature.operandTexts_one filePlain,
    Signature.valueSetting_operand _ rootPlain, Signature.valueSetting_operand _ valuePlain]
    at taken
  refine parseArguments_command .resolve (by decide) rfl
    (Signature.tokens_operand specifierPlain <| Signature.tokens_operand filePlain <|
      Signature.tokens_switch (by decide) rfl <| Signature.tokens_operand rootPlain <|
      Signature.tokens_switch other mainRole <| Signature.tokens_operand valuePlain rfl) ?_
  simp only [parseCommand, taken]
  rfl

/-- The command `resolve` with a root and the name of the configuration file. -/
theorem parse_resolve_named (specifierPlain : Operand specifier) (filePlain : Operand file)
    (rootPlain : Operand root) (namePlain : Operand fileName) :
    parseArguments ["resolve".toList, specifier, file, "--root".toList, root,
        "--config-file".toList, fileName]
      = .ok ⟨some (.resolve ⟨specifier, some file, .absent, fileName, some root, false, false⟩),
          false⟩ :=
  parse_resolve (switchNamed .fileName .value ["--config-file"]) specifierPlain filePlain rootPlain
    namePlain (by decide) rfl rfl rfl

/-- The command `resolve` with a root and a configuration. -/
theorem parse_resolve_given (specifierPlain : Operand specifier) (filePlain : Operand file)
    (rootPlain : Operand root) (valuePlain : Operand value) :
    parseArguments ["resolve".toList, specifier, file, "--root".toList, root,
        "--config".toList, value]
      = .ok ⟨some (.resolve ⟨specifier, some file, .text value, Configuration.defaultFileName,
          some root, false, false⟩), false⟩ :=
  parse_resolve (switchNamed .configuration .value ["--config"]) specifierPlain filePlain rootPlain
    valuePlain (by decide) rfl rfl rfl

end ImportResolution.CommandLine
