import SealedContent.Web.Exchange

/-!
A dialogue holds the replies that have come so far. Whoever goes through it again from its start
gets these replies again, up to the first request that still waits for one.
-/

namespace SealedContent.Web

structure Dialogue where
  replies : List (Option Reply)
  waiting : Option Request

namespace Dialogue

def start (replies : List (Option Reply)) : Dialogue := ⟨replies, none⟩

/-- Answers from the replies; a request beyond them waits, and gets nothing now. -/
def transport : Transport Dialogue := fun request dialogue =>
  match dialogue.replies with
  | reply :: rest => (reply, { dialogue with replies := rest })
  | [] => (none, { dialogue with waiting := dialogue.waiting.or (some request) })

end Dialogue

end SealedContent.Web
