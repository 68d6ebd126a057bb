import LabelTemplate.Outcome
import LabelTemplate.Statement.Recognise
import LabelTemplate.Warning

/-!
# Collecting graphics of several files

The definitions of other files are appended to a template. Behind the template comes
a banner with a comment, then one block after another in the order of the files. A
block runs from a store command to the next format start, or to the end of the file
less a final line feed, and is given the name that the user chose for its file.
-/

namespace LabelTemplate.Compilation

/-- A file whose graphics are to be appended. -/
structure Source where
  /-- The name of the file. -/
  fileName : Text := []
  /-- What the file holds. -/
  content : Text := []
  /-- The name that its graphics are to be called by. -/
  imageName : Text := []
deriving DecidableEq, Repr

/-- Why nothing can be compiled. -/
inductive CompileError where
  /-- The template is blank. -/
  | noTemplate
  /-- There is no source. -/
  | noSource
  /-- The comment is blank. -/
  | noComment
  /-- A source has no name for its graphics. -/
  | unnamedSource
deriving DecidableEq, Repr

/-- The wording of a compile error. -/
def CompileError.message : CompileError → String
  | .noTemplate => "请先选择原始文件"
  | .noSource => "至少需要添加一个新图片"
  | .noComment => "备注为必填项"
  | .unnamedSource => "请为所有新增图片填写调用名"

/-- The first reason why nothing can be compiled. -/
def check (template : Text) (sources : List Source) (comment : Text) : Option CompileError :=
  if template.blank then some .noTemplate
  else if sources.isEmpty then some .noSource
  else if comment.blank then some .noComment
  else if sources.any fun s => s.imageName.blank then some .unnamedSource
  else none

/-- Does a block end before this text: at a format start, or at the end of the file? -/
def atBlockEnd (t : Text) : Bool := Command.formatStart.isPrefixOf t || t == ['\n']

/-- A block of definitions. -/
def block : Scan.Recogniser Text := fun t => do
  let behind ← Statement.after? Command.storeGraphic t
  let text := Command.storeGraphic ++ (Text.splitBefore atBlockEnd behind).1
  pure (text, text.length)

/-- The blocks of a file. -/
def blocksOf (content : Text) : List Text := Scan.found block content

/-- What comes behind a store command and its name, if there is a name. -/
def behindName? (t : Text) : Option Text := do
  let behind ← Statement.after? Command.storeGraphic t
  match behind with
  | [] | ',' :: _ => none
  | _ => pure (behind.dropWhile (· != ','))

/-- A text in which the first definition with a name has a new one. -/
def renameFirst (name : Text) : Text → Text
  | [] => []
  | c :: cs =>
    match behindName? (c :: cs) with
    | some behind => Command.storeGraphic ++ name ++ behind
    | none => c :: renameFirst name cs

/-- The blocks of a source under its name. -/
def renamedBlocks (s : Source) : List Text :=
  (blocksOf s.content).map fun b => renameFirst s.imageName.trim b.trim

/-- The line between the template and the appended blocks. -/
def banner (comment : Text) : Text :=
  let rule := List.replicate 27 '/'
  rule ++ ' ' :: comment.trim ++ ' ' :: rule

/-- The compiled text. -/
def text (template : Text) (sources : List Source) (comment : Text) : Text :=
  let blocks := (sources.flatMap renamedBlocks).flatMap fun b => [b, []]
  Text.unlines ([template.trim, [], banner comment, []] ++ blocks) ++ ['\n']

/-- The compiled file: its name is the template's after `outputStart`. -/
def compile (outputStart name template : Text) (sources : List Source) (comment : Text) :
    Except CompileError Export :=
  match check template sources comment with
  | some e => .error e
  | none => .ok { fileName := outputStart ++ name, content := text template sources comment }

/-- One warning for each source without definitions. -/
def warnings (sources : List Source) : List Warning :=
  (sources.filter fun s => (blocksOf s.content).isEmpty).map fun s => .noDefinitionsIn s.fileName

end LabelTemplate.Compilation
