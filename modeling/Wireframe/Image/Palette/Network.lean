import Wireframe.Image

/-!
A palette for an image of many values, learned from its pixels by a self-organising map.
Neurons start on the grey diagonal; each sample pulls the neuron it chooses, and with it
that neuron's neighbours.
-/

namespace Wireframe

/-- A point in the space of opaque and transparent colours, and how often
samples have come near it. -/
structure Neuron where
  red : Float
  green : Float
  blue : Float
  opacity : Float
  frequency : Float
  bias : Float

namespace Neuron

def count : Nat := 256

/-- The darkest sixteen neurons are the transparent ones. -/
def initial (i : Nat) : Neuron :=
  let grey := i.toFloat * 256.0 / count.toFloat
  let opacity := if i < 16 then i.toFloat * 16.0 else 255.0
  ⟨grey, grey, grey, opacity, 1.0 / count.toFloat, 0.0⟩

def ofRgb (p : Rgb) : Neuron :=
  ⟨p.red.toFloat, p.green.toFloat, p.blue.toFloat, 255.0, 0.0, 0.0⟩

def toRgb (n : Neuron) : Rgb :=
  ⟨n.red.round.toUInt8, n.green.round.toUInt8, n.blue.round.toUInt8⟩

def partialDistance (n sample : Neuron) : Float :=
  (n.blue - sample.blue).abs + (n.red - sample.red).abs

def distance (n sample : Neuron) : Float :=
  n.partialDistance sample + (n.green - sample.green).abs +
    (n.opacity - sample.opacity).abs

def pull (n sample : Neuron) (share : Float) : Neuron :=
  { n with
    red := n.red - share * (n.red - sample.red)
    green := n.green - share * (n.green - sample.green)
    blue := n.blue - share * (n.blue - sample.blue)
    opacity := n.opacity - share * (n.opacity - sample.opacity) }

def weight : Float := 1.0 / 1024.0

/-- With every sample a frequency fades, and the bias grows in its stead. -/
def fade (n : Neuron) : Neuron :=
  let frequency := n.frequency - weight * n.frequency
  { n with frequency := frequency, bias := n.bias + frequency }

/-- The neuron nearest to a sample pays for it. -/
def charge (n : Neuron) : Neuron :=
  { n with frequency := n.frequency + weight, bias := n.bias - 1.0 }

end Neuron

/-- A contest of neurons for a sample: the nearest so far, and the nearest once
biases are taken off. -/
structure Contest where
  nearest : Nat
  distance : Float
  chosen : Nat
  chosenDistance : Float

namespace Contest

def start : Contest :=
  ⟨0, 1.0 / 0.0, 0, 1.0 / 0.0⟩

/-- A neuron that is too far away along two axes is not looked at along the others. -/
def enter (sample : Neuron) (contest : Contest) (i : Nat) (n : Neuron) : Contest :=
  let near := n.partialDistance sample
  if near < contest.distance || near < contest.chosenDistance + n.bias then
    let distance := n.distance sample
    let biased := distance - n.bias
    let contest :=
      if distance < contest.distance then
        { contest with nearest := i, distance := distance }
      else contest
    if biased < contest.chosenDistance then
      { contest with chosen := i, chosenDistance := biased }
    else contest
  else
    contest

def hold (neurons : Array Neuron) (sample : Neuron) : Contest :=
  (neurons.foldl (fun (contest, i) n => (contest.enter sample i n, i + 1)) (start, 0)).1

end Contest

/-- How far a sample reaches: the share of the neuron it chooses, in 1024ths, and the
radius of its neighbourhood, in 64ths. Both shrink as the map settles. -/
structure Reach where
  share : Nat
  radius : Nat

namespace Reach

def initial : Reach := ⟨1024, Neuron.count / 8 * 64⟩

def shrink (reach : Reach) : Reach :=
  ⟨reach.share - reach.share / 30, reach.radius - reach.radius / 30⟩

/-- A radius of one has no neighbours in it. -/
def neighbourhood (reach : Reach) : Nat :=
  if reach.radius / 64 ≤ 1 then 0 else reach.radius / 64

def shareAt (reach : Reach) (away : Nat) : Float :=
  let full := reach.share.toFloat / 1024.0
  let square := reach.neighbourhood.toFloat * reach.neighbourhood.toFloat
  let inner := (away - 1).toFloat
  if away = 0 then full else full * (square - inner * inner) / square

/-- A neighbour is fewer places away than the neighbourhood is wide; the
first neuron is nobody's. -/
def pullAll (reach : Reach) (neurons : Array Neuron) (sample : Neuron) (chosen : Nat) :
    Array Neuron :=
  neurons.mapIdx fun i n =>
    let away := if i < chosen then chosen - i else i - chosen
    if away = 0 || (away < reach.neighbourhood && i ≠ 0) then
      n.pull sample (reach.shareAt away)
    else n

end Reach

namespace Network

/-- One sample: the nearest neuron pays for it, and the chosen one
moves with its neighbours. -/
def learn (reach : Reach) (neurons : Array Neuron) (sample : Neuron) : Array Neuron :=
  let contest := Contest.hold neurons sample
  let neurons := (neurons.map Neuron.fade).modify contest.nearest Neuron.charge
  reach.pullAll neurons sample contest.chosen

def strides : List Nat := [499, 491, 478, 503]

def stride (size : Nat) : Nat :=
  (strides.find? fun step => size % step ≠ 0).getD 503

def phase (size : Nat) : Nat :=
  max 1 (size / (Neuron.count / 2))

def learnFrom (pixels : Array Rgb) (neurons : Array Neuron) (reach : Reach) (i : Nat) :
    Nat → Array Neuron
  | 0 => neurons
  | remaining + 1 =>
      let sample :=
        Neuron.ofRgb (pixels.getD (i * stride pixels.size % pixels.size) ⟨0, 0, 0⟩)
      let neurons := learn reach neurons sample
      let reach := if (i + 1) % phase pixels.size = 0 then reach.shrink else reach
      learnFrom pixels neurons reach (i + 1) remaining

def ofPixels (pixels : Array Rgb) : Array Neuron :=
  learnFrom pixels ((Array.range Neuron.count).map Neuron.initial) .initial 0 pixels.size

end Network

end Wireframe
