import Handoff.Component.Renderer
import Handoff.Naming

/-!
Components for Angular: standalone classes whose template is a literal between backquotes.
-/
namespace Handoff.Component.Angular

/-- Elements of the library by role. There is none for selects. -/
def wrapperTable : List (Role × Wrapper) :=
  [ (.button,
      { tag := "button"
        directives := ["hlmBtn"]
        module := "@spartan-ng/ui-button-helm"
        symbols := ["HlmButtonDirective"]
        properties := [.value "variant" "default"]
        hasSlot := true }),
    (.input,
      { tag := "input"
        directives := ["hlmInput"]
        module := "@spartan-ng/ui-input-helm"
        symbols := ["HlmInputDirective"]
        properties := [.value "type" "text"]
        hasSlot := false }),
    (.textarea,
      { tag := "textarea"
        directives := ["hlmInput"]
        module := "@spartan-ng/ui-input-helm"
        symbols := ["HlmInputDirective"]
        properties := []
        hasSlot := false }),
    (.checkbox,
      { tag := "brn-checkbox"
        directives := ["hlm"]
        module := "@spartan-ng/ui-checkbox-brain"
        symbols := ["BrnCheckboxComponent", "HlmCheckboxDirective"]
        properties := []
        hasSlot := false }),
    (.switch,
      { tag := "brn-switch"
        directives := ["hlm"]
        module := "@spartan-ng/ui-switch-brain"
        symbols := ["BrnSwitchComponent", "HlmSwitchDirective"]
        properties := []
        hasSlot := false }),
    (.card,
      { tag := "section"
        directives := ["hlmCard"]
        module := "@spartan-ng/ui-card-helm"
        symbols := ["HlmCardDirective", "HlmCardHeaderDirective", "HlmCardTitleDirective",
          "HlmCardContentDirective", "HlmCardFooterDirective"]
        properties := []
        hasSlot := true }),
    (.dialog,
      { tag := "hlm-dialog"
        directives := []
        module := "@spartan-ng/ui-dialog-brain"
        symbols := ["BrnDialogTriggerDirective", "BrnDialogContentDirective", "HlmDialogComponent",
          "HlmDialogHeaderComponent", "HlmDialogTitleDirective"]
        properties := []
        hasSlot := true }),
    (.avatar,
      { tag := "hlm-avatar"
        directives := []
        module := "@spartan-ng/ui-avatar-helm"
        symbols := ["HlmAvatarComponent", "HlmAvatarImageDirective", "HlmAvatarFallbackDirective"]
        properties := []
        hasSlot := true }),
    (.badge,
      { tag := "span"
        directives := ["hlmBadge"]
        module := "@spartan-ng/ui-badge-helm"
        symbols := ["HlmBadgeDirective"]
        properties := [.value "variant" "default"]
        hasSlot := true }),
    (.alert,
      { tag := "section"
        directives := ["hlmAlert"]
        module := "@spartan-ng/ui-alert-helm"
        symbols := ["HlmAlertDirective", "HlmAlertTitleDirective", "HlmAlertDescriptionDirective"]
        properties := []
        hasSlot := true }),
    (.tabs,
      { tag := "brn-tabs"
        directives := []
        module := "@spartan-ng/ui-tabs-brain"
        symbols := ["BrnTabsComponent", "BrnTabsListComponent", "BrnTabsTriggerDirective",
          "BrnTabsContentDirective", "HlmTabsListComponent", "HlmTabsTriggerDirective",
          "HlmTabsContentDirective"]
        properties := []
        hasSlot := true }),
    (.accordion,
      { tag := "brn-accordion"
        directives := []
        module := "@spartan-ng/ui-accordion-brain"
        symbols := ["BrnAccordionComponent", "BrnAccordionItemComponent",
          "BrnAccordionTriggerComponent", "BrnAccordionContentComponent", "HlmAccordionDirective",
          "HlmAccordionItemDirective"]
        properties := []
        hasSlot := true }),
    (.table,
      { tag := "hlm-table"
        directives := []
        module := "@spartan-ng/ui-table-helm"
        symbols := ["HlmTableComponent", "HlmTrowComponent", "HlmThComponent", "HlmTdComponent",
          "HlmCaptionComponent"]
        properties := []
        hasSlot := true }),
    (.label,
      { tag := "label"
        directives := ["hlmLabel"]
        module := "@spartan-ng/ui-label-helm"
        symbols := ["HlmLabelDirective"]
        properties := []
        hasSlot := true }),
    (.divider,
      { tag := "brn-separator"
        directives := ["hlmSeparator"]
        module := "@spartan-ng/ui-separator-helm"
        symbols := ["HlmSeparatorDirective"]
        properties := []
        hasSlot := false }) ]

def library : Library where
  wrappers := wrapperTable
  cardParts := some
    { header := ⟨"div", ["hlmCardHeader"]⟩
      title := ⟨"h3", ["hlmCardTitle"]⟩
      content := ⟨"div", ["hlmCardContent"]⟩
      footer := ⟨"div", ["hlmCardFooter"]⟩ }

/-- An at sign would open a block. -/
def textEntities : Text.EscapeTable := Markup.textEntities ++ [('@', "&#64;")]

def style : Markup.Style where
  classAttribute := "class"
  textEntities := textEntities
  selfClosing := .voidOrCustom
  baseLevel := 2

/-- Text inside a template literal: backslashes and backquotes are escaped, and so is a dollar sign
that would open a substitution. -/
def escapeLiteral : List Char → List Char
  | [] => []
  | '\\' :: rest => '\\' :: '\\' :: escapeLiteral rest
  | '\x60' :: rest => '\\' :: '\x60' :: escapeLiteral rest
  | '$' :: '\x7b' :: rest => '\\' :: '$' :: '\x7b' :: escapeLiteral rest
  | c :: rest => c :: escapeLiteral rest

def baseImports : List (String × String) :=
  [("@angular/core", "Component"), ("@angular/common", "CommonModule")]

def wrap (name template : String) (imports : Imports) : String :=
  let standalone := "CommonModule" :: imports.symbols
  ((CodeBuilder.empty.lines
      (baseImports.map fun (module, symbol) => importLine module [symbol] ++ ";")).lines
      (imports.toList.map fun (module, symbols) => importLine module symbols ++ ";")).blank
    |>.line "@Component(\x7b" |>.indent
    |>.line ("selector: 'app-" ++ Naming.kebabCase name ++ "',") |>.line "standalone: true,"
    |>.line ("imports: [" ++ String.intercalate ", " standalone ++ "],")
    |>.line "template: \x60" |>.raw (String.ofList (escapeLiteral template.toList)) |>.raw "\n"
    |>.line "\x60," |>.dedent |>.line "\x7d)"
    |>.line ("export class " ++ name ++ "Component \x7b\x7d") |>.text

def renderer : Renderer := ⟨style, library, wrap⟩

end Handoff.Component.Angular
