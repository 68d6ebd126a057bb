import LabelTemplate.Statement.Record
import LabelTemplate.Text.Quoted

/-!
# Warnings

What is passed over without failing is reported. Each warning says which part of the
input was left out; `message` words it.
-/

namespace LabelTemplate

/-- Something that was passed over. -/
inductive Warning where
  /-- A statement whose coordinates are no integers gives no field. -/
  | unreadableCoordinates (record : Record)
  /-- A replacement overlaps one that was accepted before. -/
  | overlappingReplacement (start stop : Nat)
  /-- No definition is known for a graphic that is to be embedded. -/
  | definitionNotFound (name : Text)
  /-- The document has no format that definitions could be put into. -/
  | noFormatToEmbedIn
  /-- A source of graphics defines none. -/
  | noDefinitionsIn (fileName : Text)
  /-- The render service refused a document. -/
  | renderingFailed (status : Nat) (reason : Text)
deriving DecidableEq, Repr

namespace Warning

/-- A text as a string. -/
private def str (t : Text) : String := String.ofList t

/-- The wording of a warning. -/
def message : Warning → String
  | .unreadableCoordinates r =>
    "丢弃坏匹配 #" ++ toString r.ordinal ++ ": " ++ r.kind.name ++ " 坐标无法解析: ("
      ++ str (Quoted.quote r.statement.x) ++ ", " ++ str (Quoted.quote r.statement.y) ++ ")"
  | .overlappingReplacement start stop =>
    "替换段重叠，已跳过: [" ++ toString start ++ ", " ++ toString stop ++ ")"
  | .definitionNotFound name => "未找到图片定义: " ++ str name
  | .noFormatToEmbedIn => "文档缺少 ^XA，图片定义未嵌入"
  | .noDefinitionsIn fileName =>
    "来源中没有图片定义: " ++ if fileName.isEmpty then "<未命名>" else str fileName
  | .renderingFailed status reason =>
    "渲染失败 " ++ toString status ++ ": " ++ str reason

end Warning

end LabelTemplate
