import CallSpan.Tags

/-!
# Tagging a span of one's own

A span is started with the server tags, tagged as failed, and given the event of
the failure and perhaps one of a payload.

* `tagTrial`  — the log of that.
-/

namespace CallSpan.Scenario

/-- The log of tagging a span with a status, and with a payload under an event. -/
def tagTrial (status : Status) (client : Bool) (payload : Option (String × Message)) :
    List Entry :=
  let (span, r) := (∅ : Recorder).start ⟨"tags", false, serverTags, none⟩
  let payloadEvents := payload.toList.map fun p => payloadEvent p.1 p.2
  (r.actAll .user ((∅ : Context).withSpan span)
    (errorTags status client ++ errorEvent status :: payloadEvents)).log

end CallSpan.Scenario
