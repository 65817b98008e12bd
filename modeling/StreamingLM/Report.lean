import StreamingLM.Failure

/-!
How failures are reported: as records of the family, the wording where it is this library's own, the
cause, and the numbers that the failure is about.
-/
namespace StreamingLM

def textList (names : List String) : Value := .list (names.map .text)

def Issue.report (i : Issue) : Value :=
  let wording := match i.complaint with
    | .broken rule => [("msg", .text ("Value error, " ++ rule.message))]
    | _ => []
  .record ([("loc", textList i.path), ("type", .text i.complaint.code)] ++ wording)

namespace Failure

def details : Failure → List (String × Value)
  | capacityExceeded length incoming capacity =>
    [("length", .int length), ("incoming", .int incoming), ("capacity", .int capacity)]
  | stepTooLong actual limit => [("actual", .int actual), ("max", .int limit)]
  | contextTooLong actual limit _ => [("actual", .int actual), ("max", .int limit)]
  | invalid _ issues => [("details", .list (issues.map Issue.report))]
  | _ => []

def report (f : Failure) : List (String × Value) :=
  [("error", .text f.family.name)]
    ++ (if f.hasOwnMessage then [("message", .text f.message)] else [])
    ++ (match f.cause? with
      | some c => [("cause", .text c.family.name)]
      | none => [])
    ++ f.details

end Failure

def outcomeReport {α : Type} (report : α → Value) : Except Failure α → Value
  | .ok a => report a
  | .error f => .record f.report

end StreamingLM
