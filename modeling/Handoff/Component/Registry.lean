import Handoff.Component.Library

/-!
Libraries whose elements are files of the site itself. Those for React and for Vue have the same
elements, and only their dialogs are made of different parts.
-/
namespace Handoff.Component.Registry

/-- An element, which is the first symbol of its file, with the parts that it is made of. -/
def element (tag module : String) (parts : List String) (properties : List Attribute)
    (hasSlot : Bool) : Wrapper where
  tag := tag
  directives := []
  module := module
  symbols := tag :: parts
  properties := properties
  hasSlot := hasSlot

def wrapperTable (dialogParts : List String) : List (Role × Wrapper) :=
  [(.button, element "Button" "@/components/ui/button" [] [.value "variant" "default"] true),
   (.input, element "Input" "@/components/ui/input" [] [.value "type" "text"] false),
   (.textarea, element "Textarea" "@/components/ui/textarea" [] [] false),
   (.select,
    element "Select" "@/components/ui/select"
      ["SelectContent", "SelectItem", "SelectTrigger", "SelectValue"] [] true),
   (.checkbox, element "Checkbox" "@/components/ui/checkbox" [] [] false),
   (.switch, element "Switch" "@/components/ui/switch" [] [] false),
   (.card,
    element "Card" "@/components/ui/card"
      ["CardHeader", "CardTitle", "CardContent", "CardFooter"] [] true),
   (.dialog, element "Dialog" "@/components/ui/dialog" dialogParts [] true),
   (.avatar,
    element "Avatar" "@/components/ui/avatar" ["AvatarFallback", "AvatarImage"] [] true),
   (.badge, element "Badge" "@/components/ui/badge" [] [.value "variant" "default"] true),
   (.alert, element "Alert" "@/components/ui/alert" ["AlertDescription", "AlertTitle"] [] true),
   (.tabs,
    element "Tabs" "@/components/ui/tabs" ["TabsContent", "TabsList", "TabsTrigger"] [] true),
   (.accordion,
    element "Accordion" "@/components/ui/accordion"
      ["AccordionContent", "AccordionItem", "AccordionTrigger"]
      [.value "type" "single", .flag "collapsible"] true),
   (.table,
    element "Table" "@/components/ui/table"
      ["TableBody", "TableCell", "TableHead", "TableHeader", "TableRow"] [] true),
   (.label, element "Label" "@/components/ui/label" [] [] true),
   (.divider, element "Separator" "@/components/ui/separator" [] [] false)]

def cardParts : CardParts where
  header := ⟨"CardHeader", []⟩
  title := ⟨"CardTitle", []⟩
  content := ⟨"CardContent", []⟩
  footer := ⟨"CardFooter", []⟩

def library (dialogParts : List String) : Library := ⟨wrapperTable dialogParts, some cardParts⟩

end Handoff.Component.Registry
