import LayerGraph.Node.Layers
import LayerGraph.Node.Module
import LayerGraph.Node.Pipeline
import LayerGraph.Node.Training
import LayerGraph.Registry

/-! # Built-in node types

    The eighteen node types that every registry starts with, in the order in which they are listed.
-/

namespace LayerGraph.Node

/-- The built-in node types whose code is a constructor call. -/
def constructors : List ConstructorNode :=
  [relu, softmax, conv2d, dataloader, flatten, linear, crossEntropyLoss, optimAdam, optimSGD,
   maxPool2d, dropout, batchNorm2d]

/-- The built-in plugins. -/
def builtins : List Plugin :=
  [relu.plugin, softmax.plugin, conv2d.plugin, Dataset.plugin, dataloader.plugin, flatten.plugin,
   linear.plugin, crossEntropyLoss.plugin, Module.plugin, optimAdam.plugin, optimSGD.plugin,
   Pipeline.plugin, maxPool2d.plugin, dropout.plugin, batchNorm2d.plugin, Report.plugin,
   Epoch.plugin, Trainer.plugin]

/-- The schemas of the built-in node types. -/
def schemas : List (String × Schema) :=
  (constructors.map fun node => (node.typeKey, node.schema)) ++
    [(Dataset.typeKey, Dataset.schema), (Module.typeKey, Module.schema),
     (Pipeline.typeKey, Pipeline.schema), (Report.typeKey, Report.schema),
     (Epoch.typeKey, Epoch.schema), (Trainer.typeKey, Trainer.schema)]

/-- A factory that always makes one plugin. -/
def factoryOf (plugin : Plugin) (id : Nat) : Factory := ⟨id, plugin.info.typeKey, .ok (some plugin)⟩

/-- The factories of the built-in node types. -/
def factories : List Factory := builtins.zipIdx.map fun (plugin, index) => factoryOf plugin index

/-- The registry that holds exactly the built-in node types. -/
def registry : Registry := factories.map fun factory => (Text.lower factory.typeKey, factory)

end LayerGraph.Node
