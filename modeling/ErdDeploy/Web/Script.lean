import ErdDeploy.Web.Message

/-!
A transport of prepared answers.

A script holds the answers that are still to come and remembers what was asked of it: the
requests, how long it was told to wait, and how often it was closed. Waiting takes no time and
never fails.
-/

namespace ErdDeploy

/-- What comes of a request. -/
abbrev Reply := Except TransportFailure Response

/-- Prepared answers, and what was asked so far. -/
structure Script (τ : Type) where
  replies : List Reply
  sent : List Request
  waits : List Binary64
  clock : τ
  /-- How often it was closed. -/
  closed : Nat

namespace Script

variable {τ : Type}

/-- A script of some answers. -/
def ofReplies (replies : List Reply) (clock : τ) : Script τ :=
  ⟨replies, [], [], clock, 0⟩

/-- Ask for the next answer. -/
def next (request : Request) (script : Script τ) : Option Reply × Script τ :=
  let asked := { script with sent := script.sent ++ [request] }
  match script.replies with
  | [] => (none, asked)
  | reply :: replies => (some reply, { asked with replies := replies })

/-- Remember a wait. -/
def wait (seconds : Binary64) (script : Script τ) : Script τ :=
  { script with waits := script.waits ++ [seconds] }

/-- Remember that it was closed. -/
def close (script : Script τ) : Script τ :=
  { script with closed := script.closed + 1 }

/-- The failure of a request for which no answer is left. -/
def exhausted : TransportFailure :=
  ⟨"script exhausted"⟩

/-- A script as a transport. -/
def transport : Transport (Script τ) τ where
  send request script :=
    let (reply, script) := script.next request
    (reply.getD (.error exhausted), script)
  wait seconds script := (.ok (), script.wait seconds)
  now script := script.clock
  close := close

end Script

end ErdDeploy
