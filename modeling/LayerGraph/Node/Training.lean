import LayerGraph.Node.Data

/-! # Training

    The report of a loss, the function that trains for one epoch, and the loop over epochs. A report
    without a condition or without statements is left out altogether.
-/

namespace LayerGraph.Node

/-! ### Reports -/

namespace Report

def typeKey : String := "ReportLoss"

def schema : Schema :=
  [withStandard "reportCondition" .text (.str "batch_no % 1000 == 999"),
   withStandard "reportStatements" .text
     (.str ("last_loss = running_loss / 1000\n" ++
       "print(f\"  batch \x7bbatch_no + 1\x7d loss: \x7blast_loss\x7d\")")),
   withStandard "resetRunningLoss" .boolean (.bool true)]

def template : String := "if \x7bcondition\x7d:\n\x7bstatements\x7d\x7breset\x7d"

/-- The line that resets the running loss, with the line break in front of it. -/
def reset (settings : Entries) : String :=
  if settings.flag "resetRunningLoss" then "\n" ++ Fragment.indent "running_loss = 0." 1 else ""

/-- The report for validated settings. -/
def emitValid (settings : Entries) : Except Failure String :=
  let condition := Text.trim (settings.text "reportCondition").toList
  let statements := Fragment.trimBreaks (settings.text "reportStatements")
  if condition.isEmpty || Fragment.isBlank statements then .ok ""
  else if condition.contains '\n' then
    refuse (.invalidSetting typeKey "reportCondition" .manyLines)
  else
    renderSource typeKey template
      [("condition", .str (String.ofList condition)),
       ("statements", .str (Fragment.indent statements 1)), ("reset", .str (reset settings))]

/-- The code of a report. -/
def emit (given : Value) (inside : Inside) : Except Failure String := do
  refuseChild typeKey inside
  let settings ← schema.parseValue typeKey given
  emitValid settings

def info : NodeInfo where
  typeKey := typeKey
  name := "Report Loss"
  category := .report
  description := "Periodic loss report inside a training loop."
  inputLines := 1
  outputLines := 1
  secondaryInputLines := 0
  schema := schema
  imports := []
  dependencies := []

def plugin : Plugin := ⟨info, emit⟩

end Report

/-! ### One epoch -/

namespace Epoch

def typeKey : String := "TrainOneEpoch"

def schema : Schema :=
  [withStandard "functionName" .name (.str "train_one_epoch"),
   withStandard "destructureDataVariables" (.sequence .name) (Dataset.names ["inputs", "labels"]),
   withStandard "modelInputOrder" (.sequence .name) (Dataset.names ["inputs"]),
   withStandard "modelOutputVariables" (.sequence .name) (Dataset.names ["outputs"]),
   withStandard "lossFunctionInputs" (.sequence .name) (Dataset.names ["outputs", "labels"])]

def template : String :=
  "def \x7bfunction_name\x7d(epoch_index, optimizer, dataloader, model, loss_fn):\n" ++
  "    running_loss = 0.\n" ++
  "    last_loss = 0.\n" ++
  "\n" ++
  "    for batch_no, data in enumerate(dataloader):\n" ++
  "        \x7bdestructure\x7d = data\n" ++
  "        optimizer.zero_grad()\n" ++
  "        \x7bmodel_outputs\x7d = model(\x7bmodel_inputs\x7d)\n" ++
  "        loss = loss_fn(\x7bloss_inputs\x7d)\n" ++
  "        loss.backward()\n" ++
  "        optimizer.step()\n" ++
  "        running_loss += loss.item()\x7breport_code\x7d\n" ++
  "\n" ++
  "    return last_loss"

/-- The code of the parts without line breaks at its ends. -/
def blocks (parts : List Part) : Except Failure (List String) :=
  parts.mapM fun part => Fragment.trimBreaks <$> part.code

/-- The report inside the loop, with the line break in front of it. -/
def reportCode (blocks : List String) : String :=
  let report := Fragment.stack (blocks.filter (!Fragment.isBlank ·))
  if report.isEmpty then "" else "\n" ++ Fragment.indent report 2

/-- The function for validated settings and the code inside. -/
def emitValid (settings : Entries) (inside : Inside) : Except Failure String :=
  match Dataset.firstEmpty settings
      ["destructureDataVariables", "modelInputOrder", "modelOutputVariables",
       "lossFunctionInputs"] with
  | some key => refuse (.invalidSetting typeKey key .noVariable)
  | none => do
    let parts ← inside.parts.mapError .graph
    let blocks ← blocks parts
    renderSource typeKey template
      [("function_name", .str (settings.text "functionName")),
       ("destructure", .str (settings.commaTexts "destructureDataVariables")),
       ("model_outputs", .str (settings.commaTexts "modelOutputVariables")),
       ("model_inputs", .str (settings.commaTexts "modelInputOrder")),
       ("loss_inputs", .str (settings.commaTexts "lossFunctionInputs")),
       ("report_code", .str (reportCode blocks))]

/-- The code of a training function. -/
def emit (given : Value) (inside : Inside) : Except Failure String := do
  let settings ← schema.parseValue typeKey given
  emitValid settings inside

def info : NodeInfo where
  typeKey := typeKey
  name := "PyTorch Train One Epoch"
  category := .function
  description := "Function running one epoch of optimisation over a dataloader."
  inputLines := 0
  outputLines := 1
  secondaryInputLines := 0
  schema := schema
  imports := []
  dependencies := []

def plugin : Plugin := ⟨info, emit⟩

end Epoch

/-! ### All epochs -/

namespace Trainer

def typeKey : String := "Trainer"

def schema : Schema :=
  [withStandard "numEpochs" positiveInt (.int 1),
   withStandard "trainFunctionName" .name (.str "train_one_epoch"),
   withStandard "optimizerVariable" .name (.str "optimizer"),
   withStandard "dataloaderVariable" .name (.str "data_loader"),
   withStandard "modelVariable" .name (.str "model"),
   withStandard "lossFunctionVariable" .name (.str "loss_fn"),
   withStandard "avgLossVariable" .name (.str "avg_loss"),
   withStandard "additionalCode" .text (.str "")]

def template : String :=
  "for epoch_index in range(\x7bnum_epochs\x7d):\n" ++
  "    \x7bmodel\x7d.train(True)\n" ++
  "    \x7bavg_loss\x7d = \x7btrain_fn\x7d(epoch_index, \x7boptimizer\x7d, \x7bdataloader\x7d, " ++
  "\x7bmodel\x7d, \x7bloss_fn\x7d)\x7badditional\x7d"

/-- The user's code at the end of the loop, with the line break in front of it. -/
def additional (settings : Entries) : String :=
  let extra := Fragment.trimBreaks (settings.text "additionalCode")
  if Fragment.isBlank extra then "" else "\n" ++ Fragment.indent extra 1

/-- The loop for validated settings. -/
def emitValid (settings : Entries) : Except Failure String :=
  renderSource typeKey template
    [("num_epochs", (settings.get? "numEpochs").getD .null),
     ("model", .str (settings.text "modelVariable")),
     ("avg_loss", .str (settings.text "avgLossVariable")),
     ("train_fn", .str (settings.text "trainFunctionName")),
     ("optimizer", .str (settings.text "optimizerVariable")),
     ("dataloader", .str (settings.text "dataloaderVariable")),
     ("loss_fn", .str (settings.text "lossFunctionVariable")),
     ("additional", .str (additional settings))]

/-- The code of a loop over epochs. -/
def emit (given : Value) (inside : Inside) : Except Failure String := do
  refuseChild typeKey inside
  let settings ← schema.parseValue typeKey given
  emitValid settings

def info : NodeInfo where
  typeKey := typeKey
  name := "PyTorch Trainer"
  category := .trainer
  description := "Epoch loop driving the one-epoch training function."
  inputLines := 0
  outputLines := 1
  secondaryInputLines := 0
  schema := schema
  imports := []
  dependencies := []

def plugin : Plugin := ⟨info, emit⟩

end Trainer

end LayerGraph.Node
