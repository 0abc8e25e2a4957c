set_option autoImplicit false

/-!
# Notifications

One-line messages shown to the user.
-/

namespace Composer

/-- How a notification is meant. -/
inductive NotificationLevel where
  | info
  | success
  | error
  deriving DecidableEq, Repr

/-- A message to the user. -/
structure Notification where
  level : NotificationLevel
  title : String
  message : String
  deriving DecidableEq, Repr

/-- The name of a level. -/
def NotificationLevel.name : NotificationLevel → String
  | .info => "info"
  | .success => "success"
  | .error => "error"

/-- The text of a notification on one line. -/
def Notification.line (n : Notification) : String :=
  if n.message.isEmpty then n.title else n.title ++ ": " ++ n.message

end Composer
