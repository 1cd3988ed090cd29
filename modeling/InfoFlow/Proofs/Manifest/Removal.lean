import InfoFlow.Manifest.Json
import InfoFlow.Proofs.Config.Documents
import InfoFlow.Proofs.Json.Removal
import InfoFlow.Proofs.Manifest.Includes

namespace InfoFlow

open Json

namespace Manifest

/-- The field of the authorization logic, the last one of a manifest. -/
def moduleField : Field Spot Manifest :=
  .extra "authorization_logic" (Source.optional ModuleDecl.read)
    fun authorizationLogic m => { m with authorizationLogic }

/-- A text of a manifest is another one without the authorization logic. -/
def RemovesModule (text shorter : String) : Prop :=
  Removes form moduleField.name text shorter

/-- Without its authorization logic a manifest is read as it was, but for that. -/
theorem ofText_of_removesModule {text shorter : String} {m : Manifest}
    (hremoves : RemovesModule text shorter) (h : ofText text = .ok m) :
    ofText shorter = .ok { m with authorizationLogic := none } := by
  have hform : form.fields = form.fields.take 8 ++ [moduleField] := rfl
  have hlast : moduleField.Clears fun m => { m with authorizationLogic := none } :=
    Field.clears_extra fun _ _ => rfl
  have hnames : ∀ field ∈ form.fields.take 8, field.name ≠ moduleField.name := by decide
  have hothers : ∀ field ∈ form.fields.take 8,
      field.Keeps fun m => { m with authorizationLogic := none } := by
    simp only [form, List.take, List.forall_mem_cons]
    refine ⟨?_, ?_, ?_, ?_, ?_, ?_, ?_, ?_, by simp⟩
    all_goals exact Field.keeps_extra fun _ _ => rfl
  exact Json.readText_of_removes hform hlast hnames hothers rfl hremoves h

end Manifest

namespace ModuleDecl

def toJson (decl : ModuleDecl) : Value :=
  .object [("module", .text decl.name), ("input_dir", .text decl.inputDir),
    ("output_dir", .text decl.outputDir)]

theorem gives (decl : ModuleDecl) : Gives ModuleDecl.read decl.toJson decl :=
  LawfulSource.record <| .cons rfl (Gives.needed (LawfulSource.string decl.name)) <|
    .cons rfl (Gives.needed (LawfulSource.string decl.inputDir)) <|
    .cons rfl (Gives.needed (LawfulSource.string decl.outputDir)) <| .nil rfl

end ModuleDecl

namespace Manifest

/-- A text that includes files, and a module if one is given. -/
def textIncluding (includes : List String) (decl? : Option ModuleDecl) : String :=
  (Value.object (("includes", .texts includes) ::
    (decl?.map fun decl => ("authorization_logic", decl.toJson)).toList)).compact

theorem ofText_textIncluding (includes : List String) (decl : ModuleDecl) :
    ofText (textIncluding includes (some decl)) =
      .ok { including includes with authorizationLogic := some decl } := by
  have hmodule : Gives (Source.optional ModuleDecl.read) decl.toJson (some decl) :=
    LawfulSource.optional_of_ne (by simp [ModuleDecl.toJson]) decl.gives
  have hgives : Gives Manifest.read (.object [("includes", .texts includes),
      ("authorization_logic", decl.toJson)])
      { including includes with authorizationLogic := some decl } :=
    LawfulSource.record <| .cons rfl (gives_texts includes).extra <|
      .cons rfl hmodule.extra <| .nil rfl
  refine hgives.readText_eq (Value.lexes_compact _ (by simp [ModuleDecl.toJson])) ?_
  simp [Value.nesting, Value.membersNesting, Value.nesting_texts, nestingLimit, ModuleDecl.toJson]

theorem removesModule_textIncluding (includes : List String) (decl : ModuleDecl) :
    RemovesModule (textIncluding includes (some decl)) (textIncluding includes none) :=
  removes_of_lexes (Value.lexes_compact _ (by simp [ModuleDecl.toJson]))
    (Value.lexes_compact _ (by simp))

end Manifest

end InfoFlow
