import Handoff.Named

/-!
The roles that layers play in an interface, and how a reader interacts with them.
-/
namespace Handoff

/-- What a layer is meant as. -/
inductive Role where
  | button
  | input
  | textarea
  | select
  | checkbox
  | switch
  | card
  | dialog
  | avatar
  | badge
  | alert
  | tabs
  | accordion
  | table
  | navbar
  | sidebar
  | footer
  | hero
  | icon
  | image
  | divider
  | label
  | link
  | container
  | text
  | unknown
  deriving DecidableEq

instance : Named Role where
  all := [.button, .input, .textarea, .select, .checkbox, .switch, .card, .dialog, .avatar, .badge,
    .alert, .tabs, .accordion, .table, .navbar, .sidebar, .footer, .hero, .icon, .image, .divider,
    .label, .link, .container, .text, .unknown]
  name
    | .button => "button"
    | .input => "input"
    | .textarea => "textarea"
    | .select => "select"
    | .checkbox => "checkbox"
    | .switch => "switch"
    | .card => "card"
    | .dialog => "dialog"
    | .avatar => "avatar"
    | .badge => "badge"
    | .alert => "alert"
    | .tabs => "tabs"
    | .accordion => "accordion"
    | .table => "table"
    | .navbar => "navbar"
    | .sidebar => "sidebar"
    | .footer => "footer"
    | .hero => "hero"
    | .icon => "icon"
    | .image => "image"
    | .divider => "divider"
    | .label => "label"
    | .link => "link"
    | .container => "container"
    | .text => "text"
    | .unknown => "unknown"
  complete a := by cases a <;> decide
  distinct := by decide

/-- How a reader interacts with a layer. -/
inductive Interaction where
  | click
  | input
  | toggle
  | navigation
  deriving DecidableEq

instance : Named Interaction where
  all := [.click, .input, .toggle, .navigation]
  name
    | .click => "click"
    | .input => "input"
    | .toggle => "toggle"
    | .navigation => "navigation"
  complete a := by cases a <;> decide
  distinct := by decide

end Handoff
