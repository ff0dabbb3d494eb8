/-
This file holds engines that answer from a script.
-/

import NetworkAutomation.Runner.Basic

namespace NetworkAutomation

/-- A script holds the replies that are left and every call so far. -/
structure Script where
  replies : List (Except String RunStatus)
  calls : List Call := []

namespace Script

/-- An empty script breaks every call. -/
def exhausted : Except String RunStatus := .error "no reply is left"

/-- Replies are given in their order, and the last of them is repeated. -/
def next : List (Except String RunStatus) →
    Except String RunStatus × List (Except String RunStatus)
  | [] => (exhausted, [])
  | [reply] => (reply, [reply])
  | reply :: rest => (reply, rest)

/-- Every call is recorded, whatever the reply. -/
def engine : Engine Script where
  respond script call :=
    let (reply, replies) := next script.replies
    (reply, ⟨replies, script.calls ++ [call]⟩)

end Script

end NetworkAutomation
