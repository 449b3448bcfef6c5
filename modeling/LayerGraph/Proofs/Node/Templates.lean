import LayerGraph.Node.Catalog
import Mathlib

/-! # The templates of the built-in node types

    Each built-in template is well formed. Its segments are the lines of its class, function or
    statement, with the placeholders in between.
-/

namespace LayerGraph

/-- The template of the constructor nodes is a call, which may be assigned. -/
theorem ConstructorNode.segments :
    Template.segmentsOf "\x7bassignment\x7d\x7bcallee\x7d(\x7bargs\x7d)" =
      .ok [⟨"", some "assignment"⟩, ⟨"", some "callee"⟩, ⟨"(", some "args"⟩, ⟨")", none⟩] := by
  unfold Template.segmentsOf
  rw [String.toList_ofList]
  cbv

namespace Node

theorem Dataset.segments :
    Template.segmentsOf Dataset.template =
      .ok [⟨"class ", some "class_name"⟩,
        ⟨"(Dataset):\n    def __init__(", some "constructor_params"⟩, ⟨"):\n", some "init_body"⟩,
        ⟨"\n\n    def __len__(", some "len_params"⟩, ⟨"):\n", some "len_body"⟩,
        ⟨"\n\n    def __getitem__(", some "getitem_params"⟩, ⟨"):\n", some "getitem_body"⟩] := by
  unfold Template.segmentsOf Dataset.template
  simp only [String.toList_append]
  repeat rw [String.toList_ofList]
  cbv

theorem Module.segments :
    Template.segmentsOf Module.template =
      .ok [⟨"class ", some "class_name"⟩, ⟨"(nn.Module):\n    def __init__(", some "init_params"⟩,
        ⟨"):\n", some "init_body"⟩, ⟨"\n\n    def forward(", some "forward_params"⟩,
        ⟨"):\n", some "forward_body"⟩] := by
  unfold Template.segmentsOf Module.template
  simp only [String.toList_append]
  repeat rw [String.toList_ofList]
  cbv

theorem Pipeline.segments :
    Template.segmentsOf Pipeline.template =
      .ok [⟨"", some "section"⟩, ⟨"\n\n", some "variable"⟩, ⟨" = ", some "class_name"⟩,
        ⟨"()", none⟩] := by
  unfold Template.segmentsOf Pipeline.template
  rw [String.toList_ofList]
  cbv

theorem Report.segments :
    Template.segmentsOf Report.template =
      .ok [⟨"if ", some "condition"⟩, ⟨":\n", some "statements"⟩, ⟨"", some "reset"⟩] := by
  unfold Template.segmentsOf Report.template
  rw [String.toList_ofList]
  cbv

set_option maxRecDepth 2000 in
theorem Epoch.segments :
    Template.segmentsOf Epoch.template =
      .ok [⟨"def ", some "function_name"⟩,
        ⟨"(epoch_index, optimizer, dataloader, model, loss_fn):\n    running_loss = 0.\n" ++
          "    last_loss = 0.\n\n    for batch_no, data in enumerate(dataloader):\n        ",
          some "destructure"⟩,
        ⟨" = data\n        optimizer.zero_grad()\n        ", some "model_outputs"⟩,
        ⟨" = model(", some "model_inputs"⟩, ⟨")\n        loss = loss_fn(", some "loss_inputs"⟩,
        ⟨")\n        loss.backward()\n        optimizer.step()\n" ++
          "        running_loss += loss.item()", some "report_code"⟩,
        ⟨"\n\n    return last_loss", none⟩] := by
  unfold Template.segmentsOf Epoch.template
  simp only [String.toList_append]
  repeat rw [String.toList_ofList]
  cbv

theorem Trainer.segments :
    Template.segmentsOf Trainer.template =
      .ok [⟨"for epoch_index in range(", some "num_epochs"⟩, ⟨"):\n    ", some "model"⟩,
        ⟨".train(True)\n    ", some "avg_loss"⟩, ⟨" = ", some "train_fn"⟩,
        ⟨"(epoch_index, ", some "optimizer"⟩, ⟨", ", some "dataloader"⟩, ⟨", ", some "model"⟩,
        ⟨", ", some "loss_fn"⟩, ⟨")", some "additional"⟩] := by
  unfold Template.segmentsOf Trainer.template
  simp only [String.toList_append]
  repeat rw [String.toList_ofList]
  cbv

end Node

end LayerGraph
