import LayerGraph.Node.Constructor

/-! # Layers, losses, optimizers and loaders

    The node types whose code is a constructor call. Each has a variable to assign to; the layers
    of a model have none unless it is named, the others have a standard one.
-/

namespace LayerGraph.Node

open Number (Binary64)

/-! ### Settings -/

/-- A number in decimal notation. -/
def decimal (digits : Nat) (exponent : Int) : Value :=
  .float (Binary64.ofDecimal false digits exponent)

def positiveInt : Shape := .integer [.above 0]
def nonNegativeInt : Shape := .integer [.atLeast 0]
def anyInt : Shape := .integer []
def probability : Shape := .number [.atMost 1, .atLeast 0]
def positiveNumber : Shape := .number [.above 0]
def nonNegativeNumber : Shape := .number [.atLeast 0]

/-- A number from zero up to, but not, one. -/
def decayRate : Shape := .number [.below 1, .atLeast 0]

/-- One positive integer for both directions, or one for each. -/
def size : Shape := .either positiveInt (.pair positiveInt)

/-- The same where zero is allowed. -/
def margin : Shape := .either nonNegativeInt (.pair nonNegativeInt)

/-- A setting that must be given. -/
def needed (key : String) (shape : Shape) : SettingField := ⟨key, shape, none⟩

/-- A setting with a standard value. -/
def withStandard (key : String) (shape : Shape) (standard : Value) : SettingField :=
  ⟨key, shape, some standard⟩

/-- The variable that a call is assigned to. -/
def assigned (standard : Value) : SettingField :=
  withStandard "variableName" (.optional .name) standard

/-! ### Rules -/

/-- The integer under a key of validated settings. -/
def intAt (settings : Entries) (key : String) : Int :=
  match settings.get? key with
  | some (.int n) => n
  | _ => 0

/-- The number under a key of validated settings. -/
def numberAt (settings : Entries) (key : String) : Binary64 :=
  match settings.get? key with
  | some (.float x) => x
  | _ => .zero

/-- The two integers under a key that holds one or a pair of them. -/
def bothAt (settings : Entries) (key : String) : Int × Int :=
  match settings.get? key with
  | some (.int n) => (n, n)
  | some (.tuple [.int m, .int n]) => (m, n)
  | _ => (0, 0)

/-- The channels of a convolution fall into equal groups. -/
def groupRule (settings : Entries) : Option Schema.Fault :=
  let groups := intAt settings "groups"
  if intAt settings "inChannels" % groups ≠ 0 ∨ intAt settings "outChannels" % groups ≠ 0 then
    some ⟨"groups", .groupsDoNotDivide⟩
  else none

/-- Of two dimensions that are both counted from the front, the last is not before the first. -/
def rangeRule (settings : Entries) : Option Schema.Fault :=
  let first := intAt settings "startDim"
  let last := intAt settings "endDim"
  if 0 ≤ first ∧ 0 ≤ last ∧ last < first then some ⟨"endDim", .endBeforeStart⟩ else none

/-- The padding is at most half of the kernel in each direction. -/
def paddingRule (settings : Entries) : Option Schema.Fault :=
  let kernel := bothAt settings "kernelSize"
  let padding := bothAt settings "padding"
  if kernel.1 < padding.1 * 2 ∨ kernel.2 < padding.2 * 2 then some ⟨"padding", .paddingTooLarge⟩
  else none

/-- Nesterov momentum needs a momentum and no dampening. -/
def nesterovRule (settings : Entries) : Option Schema.Fault :=
  match settings.get? "nesterov" with
  | some (.bool true) =>
    if (numberAt settings "momentum").le .zero || !(numberAt settings "dampening").eq .zero then
      some ⟨"nesterov", .nesterovAlone⟩
    else none
  | _ => none

/-! ### Layers of a model -/

def relu : ConstructorNode where
  typeKey := "ReLU"
  name := "ReLU Activation"
  category := .modelLayer
  description := "Rectified linear unit, max(0, x)."
  schema := [assigned .null, withStandard "inplace" .boolean (.bool false)]
  callee := "torch.nn.ReLU"
  optional := [⟨"inplace", "inplace", false⟩]
  suppressed := [("inplace", .bool false)]

/-- The dimension is left out only when it is not set. -/
def softmax : ConstructorNode where
  typeKey := "Softmax"
  name := "Softmax"
  category := .modelLayer
  description := "Softmax over one dimension."
  schema := [assigned .null, withStandard "dim" (.optional anyInt) .null]
  callee := "torch.nn.Softmax"
  optional := [⟨"dim", "dim", false⟩]

def conv2d : ConstructorNode where
  typeKey := "Conv2d"
  name := "Conv2d Layer"
  category := .modelLayer
  description := "2D convolution over an input signal composed of several planes."
  schema :=
    [assigned .null, needed "inChannels" positiveInt, needed "outChannels" positiveInt,
     needed "kernelSize" size, withStandard "stride" size (.int 1),
     withStandard "padding" (.either margin (.choice ["same", "valid"])) (.int 0),
     withStandard "dilation" size (.int 1), withStandard "groups" positiveInt (.int 1),
     withStandard "bias" .boolean (.bool true),
     withStandard "paddingMode" (.choice ["zeros", "reflect", "replicate", "circular"])
       (.str "zeros")]
  callee := "torch.nn.Conv2d"
  required :=
    [⟨"in_channels", "inChannels", false⟩, ⟨"out_channels", "outChannels", false⟩,
     ⟨"kernel_size", "kernelSize", false⟩]
  optional :=
    [⟨"stride", "stride", false⟩, ⟨"padding", "padding", false⟩, ⟨"dilation", "dilation", false⟩,
     ⟨"groups", "groups", false⟩, ⟨"bias", "bias", false⟩,
     ⟨"padding_mode", "paddingMode", false⟩]
  suppressed :=
    [("stride", .int 1), ("padding", .int 0), ("dilation", .int 1), ("groups", .int 1),
     ("bias", .bool true), ("padding_mode", .str "zeros")]
  rule := groupRule

def flatten : ConstructorNode where
  typeKey := "Flatten"
  name := "Flatten"
  category := .modelLayer
  description := "Flattens a contiguous range of dims into one tensor dimension."
  schema :=
    [assigned .null, withStandard "startDim" anyInt (.int 1),
     withStandard "endDim" anyInt (.int (-1))]
  callee := "torch.nn.Flatten"
  optional := [⟨"start_dim", "startDim", false⟩, ⟨"end_dim", "endDim", false⟩]
  suppressed := [("start_dim", .int 1), ("end_dim", .int (-1))]
  rule := rangeRule

def linear : ConstructorNode where
  typeKey := "Linear"
  name := "Linear Layer"
  category := .modelLayer
  description := "Applies an affine transformation y = xAᵀ + b."
  schema :=
    [assigned .null, needed "inFeatures" positiveInt, needed "outFeatures" positiveInt,
     withStandard "bias" .boolean (.bool true)]
  callee := "torch.nn.Linear"
  required := [⟨"in_features", "inFeatures", false⟩, ⟨"out_features", "outFeatures", false⟩]
  optional := [⟨"bias", "bias", false⟩]
  suppressed := [("bias", .bool true)]

/-- A stride that is not set is that of the kernel. -/
def maxPool2d : ConstructorNode where
  typeKey := "MaxPool2d"
  name := "MaxPool2d Layer"
  category := .modelLayer
  description := "2D max pooling over an input signal."
  schema :=
    [assigned .null, needed "kernelSize" size, withStandard "stride" (.optional size) .null,
     withStandard "padding" margin (.int 0), withStandard "dilation" size (.int 1),
     withStandard "ceilMode" .boolean (.bool false)]
  callee := "torch.nn.MaxPool2d"
  required := [⟨"kernel_size", "kernelSize", false⟩]
  optional :=
    [⟨"stride", "stride", false⟩, ⟨"padding", "padding", false⟩, ⟨"dilation", "dilation", false⟩,
     ⟨"ceil_mode", "ceilMode", false⟩]
  suppressed :=
    [("stride", .null), ("padding", .int 0), ("dilation", .int 1), ("ceil_mode", .bool false)]
  rule := paddingRule

def dropout : ConstructorNode where
  typeKey := "Dropout"
  name := "Dropout"
  category := .modelLayer
  description := "Randomly zeroes elements with probability p during training."
  schema :=
    [assigned .null, withStandard "p" probability (decimal 5 (-1)),
     withStandard "inplace" .boolean (.bool false)]
  callee := "torch.nn.Dropout"
  optional := [⟨"p", "p", false⟩, ⟨"inplace", "inplace", false⟩]
  suppressed := [("p", decimal 5 (-1)), ("inplace", .bool false)]

def batchNorm2d : ConstructorNode where
  typeKey := "BatchNorm2d"
  name := "BatchNorm2d"
  category := .modelLayer
  description := "Batch normalization over a 4D input."
  schema :=
    [assigned .null, needed "numFeatures" positiveInt,
     withStandard "eps" positiveNumber (decimal 1 (-5)),
     withStandard "momentum" (.optional probability) (decimal 1 (-1)),
     withStandard "affine" .boolean (.bool true),
     withStandard "trackRunningStats" .boolean (.bool true)]
  callee := "torch.nn.BatchNorm2d"
  required := [⟨"num_features", "numFeatures", false⟩]
  optional :=
    [⟨"eps", "eps", false⟩, ⟨"momentum", "momentum", false⟩, ⟨"affine", "affine", false⟩,
     ⟨"track_running_stats", "trackRunningStats", false⟩]
  suppressed :=
    [("eps", decimal 1 (-5)), ("momentum", decimal 1 (-1)), ("affine", .bool true),
     ("track_running_stats", .bool true)]

/-! ### Training -/

/-- The weight is the name of a variable with one weight per class. -/
def crossEntropyLoss : ConstructorNode where
  typeKey := "CrossEntropyLoss"
  name := "Cross Entropy Loss"
  category := .lossFunction
  description := "Cross entropy between input logits and target."
  schema :=
    [assigned (.str "loss_fn"), withStandard "weight" (.optional .dottedName) .null,
     withStandard "ignoreIndex" anyInt (.int (-100)),
     withStandard "reduction" (.choice ["mean", "sum", "none"]) (.str "mean"),
     withStandard "labelSmoothing" probability (decimal 0 0)]
  callee := "torch.nn.CrossEntropyLoss"
  optional :=
    [⟨"weight", "weight", true⟩, ⟨"ignore_index", "ignoreIndex", false⟩,
     ⟨"reduction", "reduction", false⟩, ⟨"label_smoothing", "labelSmoothing", false⟩]
  suppressed :=
    [("ignore_index", .int (-100)), ("reduction", .str "mean"), ("label_smoothing", decimal 0 0)]
  imports := ["import torch"]

/-- The settings that all optimizers have. -/
def optimizerSettings : Schema :=
  [assigned (.str "optimizer"), withStandard "params" .filledText (.str "model.parameters()"),
   withStandard "lr" positiveNumber (decimal 1 (-3)),
   withStandard "weightDecay" nonNegativeNumber (decimal 0 0)]

def optimAdam : ConstructorNode where
  typeKey := "OptimAdam"
  name := "PyTorch Optimizer Adam"
  category := .optimizer
  description := "Adam optimizer over the model's parameters."
  inputLines := 0
  schema := optimizerSettings ++
    [withStandard "betas" (.pair decayRate) (.tuple [decimal 9 (-1), decimal 999 (-3)]),
     withStandard "eps" positiveNumber (decimal 1 (-8)),
     withStandard "amsgrad" .boolean (.bool false)]
  callee := "torch.optim.Adam"
  required := [⟨"params", "params", true⟩]
  optional :=
    [⟨"lr", "lr", false⟩, ⟨"betas", "betas", false⟩, ⟨"eps", "eps", false⟩,
     ⟨"weight_decay", "weightDecay", false⟩, ⟨"amsgrad", "amsgrad", false⟩]
  suppressed :=
    [("lr", decimal 1 (-3)), ("betas", .tuple [decimal 9 (-1), decimal 999 (-3)]),
     ("eps", decimal 1 (-8)), ("weight_decay", decimal 0 0), ("amsgrad", .bool false)]
  imports := ["import torch"]

def optimSGD : ConstructorNode where
  typeKey := "OptimSGD"
  name := "PyTorch Optimizer SGD"
  category := .optimizer
  description := "Stochastic gradient descent, optionally with momentum."
  inputLines := 0
  schema := optimizerSettings ++
    [withStandard "momentum" nonNegativeNumber (decimal 0 0),
     withStandard "dampening" nonNegativeNumber (decimal 0 0),
     withStandard "nesterov" .boolean (.bool false)]
  callee := "torch.optim.SGD"
  required := [⟨"params", "params", true⟩]
  optional :=
    [⟨"lr", "lr", false⟩, ⟨"momentum", "momentum", false⟩, ⟨"dampening", "dampening", false⟩,
     ⟨"weight_decay", "weightDecay", false⟩, ⟨"nesterov", "nesterov", false⟩]
  suppressed :=
    [("lr", decimal 1 (-3)), ("momentum", decimal 0 0), ("dampening", decimal 0 0),
     ("weight_decay", decimal 0 0), ("nesterov", .bool false)]
  rule := nesterovRule
  imports := ["import torch"]

/-- The data set is the name of a variable. -/
def dataloader : ConstructorNode where
  typeKey := "Dataloader"
  name := "PyTorch DataLoader"
  category := .dataloader
  description := "Batches and optionally shuffles a dataset."
  inputLines := 0
  schema :=
    [assigned (.str "data_loader"), needed "datasetVariable" .dottedName,
     withStandard "batchSize" positiveInt (.int 1), withStandard "shuffle" .boolean (.bool false),
     withStandard "numWorkers" nonNegativeInt (.int 0),
     withStandard "dropLast" .boolean (.bool false),
     withStandard "pinMemory" .boolean (.bool false)]
  callee := "DataLoader"
  required := [⟨"dataset", "datasetVariable", true⟩]
  optional :=
    [⟨"batch_size", "batchSize", false⟩, ⟨"shuffle", "shuffle", false⟩,
     ⟨"num_workers", "numWorkers", false⟩, ⟨"drop_last", "dropLast", false⟩,
     ⟨"pin_memory", "pinMemory", false⟩]
  suppressed :=
    [("batch_size", .int 1), ("shuffle", .bool false), ("num_workers", .int 0),
     ("drop_last", .bool false), ("pin_memory", .bool false)]
  imports := ["from torch.utils.data import DataLoader"]

end LayerGraph.Node
